/-
This file is about the partial Fisher-Yates arrangement of a list: item by item,
one of the items left is picked by its place, and the first of them takes the
place it leaves. It is stated for lists over any type.

The result is that the places determine the arrangement and every arrangement has
its places: for items without repetition, sequences of places whose i-th entry is
below the number of items left are in bijection with the lists without repetition
of that length.
-/

import Mathlib.Data.List.Nodup
import Mathlib.Data.List.Perm.Basic
import Mathlib.Data.Set.Function

namespace FisherYates

variable {α : Type}

/-- The items left after the one at a place is picked: the first item moves there. -/
def leftAfter : List α → Nat → List α
  | [], _ => []
  | _ :: rest, 0 => rest
  | first :: rest, place + 1 => rest.set place first

/-- The items picked at places, one after the other. -/
def arrange : List α → List Nat → List α
  | _, [] => []
  | items, place :: places =>
    match items[place]? with
    | none => []
    | some picked => picked :: arrange (leftAfter items place) places

/-- A sequence of places: each is below the number of items left. -/
def Places : Nat → List Nat → Prop
  | _, [] => True
  | size, place :: places => place < size ∧ Places (size - 1) places

theorem places_iff {size : Nat} {places : List Nat} :
    Places size places ↔ ∀ index (within : index < places.length),
      places[index] < size - index := by
  induction places generalizing size with
  | nil => exact ⟨fun _ _ within => absurd within (Nat.not_lt_zero _), fun _ => trivial⟩
  | cons place places inductionHypothesis =>
    constructor
    · rintro ⟨first, rest⟩ index within
      cases index with
      | zero => exact first
      | succ index =>
        have later := inductionHypothesis.mp rest index (Nat.lt_of_succ_lt_succ within)
        rw [List.getElem_cons_succ]
        omega
    · intro below
      refine ⟨below 0 (Nat.zero_lt_succ _), inductionHypothesis.mpr fun index within => ?_⟩
      have later := below (index + 1) (Nat.succ_lt_succ within)
      rw [List.getElem_cons_succ] at later
      omega

/-! ### One pick -/

variable {items : List α} {place : Nat}

section

variable (within : place < items.length)

include within

/-- A pick and what it leaves are the items. -/
theorem perm_leftAfter : (items[place] :: leftAfter items place).Perm items := by
  cases items with
  | nil => exact absurd within (Nat.not_lt_zero _)
  | cons first rest =>
    cases place with
    | zero => exact List.Perm.refl _
    | succ place =>
      have inside : place < rest.length := Nat.lt_of_succ_lt_succ within
      have moved := List.set_perm_cons_eraseIdx inside first
      have back := List.getElem_cons_eraseIdx_perm inside
      show (rest[place] :: rest.set place first).Perm (first :: rest)
      exact ((moved.cons _).trans (List.Perm.swap _ _ _)).trans (back.cons _)

theorem length_leftAfter : (leftAfter items place).length = items.length - 1 := by
  have same := (perm_leftAfter within).length_eq
  rw [List.length_cons] at same
  omega

theorem nodup_leftAfter (distinct : items.Nodup) :
    items[place] ∉ leftAfter items place ∧
      (leftAfter items place).Nodup :=
  List.nodup_cons.mp ((perm_leftAfter within).nodup_iff.mpr distinct)

theorem mem_leftAfter (distinct : items.Nodup) {item : α} :
    item ∈ leftAfter items place ↔ item ∈ items ∧ item ≠ items[place] := by
  have members : item ∈ _ :: leftAfter items place ↔ item ∈ items :=
    (perm_leftAfter within).mem_iff
  rw [List.mem_cons] at members
  constructor
  · intro left
    refine ⟨members.mp (.inr left), ?_⟩
    rintro rfl
    exact (nodup_leftAfter within distinct).1 left
  · rintro ⟨member, other⟩
    exact (members.mpr member).resolve_left other

theorem arrange_cons (places : List Nat) :
    arrange items (place :: places) = items[place] :: arrange (leftAfter items place) places := by
  rw [arrange, List.getElem?_eq_getElem within]

end

/-! ### The bijection -/

/-- The arrangements of a length: lists of items without repetition. -/
def Arrangements (items : List α) (length : Nat) : Set (List α) :=
  { list | list.length = length ∧ list.Nodup ∧ ∀ item ∈ list, item ∈ items }

/-- The sequences of places of a length. -/
def Choices (size length : Nat) : Set (List Nat) :=
  { places | places.length = length ∧ Places size places }

theorem arrange_mapsTo (distinct : items.Nodup) (length : Nat) :
    Set.MapsTo (arrange items) (Choices items.length length) (Arrangements items length) := by
  induction length generalizing items with
  | zero =>
    rintro places ⟨empty, -⟩
    rw [List.length_eq_zero_iff.mp empty]
    exact ⟨rfl, List.nodup_nil, fun _ member => absurd member List.not_mem_nil⟩
  | succ length inductionHypothesis =>
    rintro places ⟨sized, choices⟩
    cases places with
    | nil => exact absurd sized (Nat.succ_ne_zero _).symm
    | cons =>
      obtain ⟨within, rest⟩ := choices
      rw [← length_leftAfter within] at rest
      obtain ⟨fresh, left⟩ := nodup_leftAfter within distinct
      obtain ⟨lengthRest, distinctRest, among⟩ :=
        inductionHypothesis left ⟨Nat.succ.inj sized, rest⟩
      rw [arrange_cons within]
      refine ⟨congrArg Nat.succ lengthRest, List.nodup_cons.mpr ⟨fun member => ?_, distinctRest⟩,
        List.forall_mem_cons.mpr ⟨List.getElem_mem within, fun item member => ?_⟩⟩
      · exact fresh (among _ member)
      · exact ((mem_leftAfter within distinct).mp (among item member)).1

theorem arrange_injOn (distinct : items.Nodup) (length : Nat) :
    Set.InjOn (arrange items) (Choices items.length length) := by
  induction length generalizing items with
  | zero =>
    rintro first ⟨firstEmpty, -⟩ second ⟨secondEmpty, -⟩ -
    rw [List.length_eq_zero_iff.mp firstEmpty, List.length_eq_zero_iff.mp secondEmpty]
  | succ length inductionHypothesis =>
    rintro first ⟨firstSized, firstPlaces⟩ second ⟨secondSized, secondPlaces⟩ same
    cases first with
    | nil => exact absurd firstSized (Nat.succ_ne_zero _).symm
    | cons =>
      cases second with
      | nil => exact absurd secondSized (Nat.succ_ne_zero _).symm
      | cons =>
        obtain ⟨within, rest⟩ := firstPlaces
        obtain ⟨within', rest'⟩ := secondPlaces
        rw [arrange_cons within, arrange_cons within'] at same
        obtain ⟨picked, later⟩ := List.cons.inj same
        obtain rfl := (distinct.getElem_inj_iff).mp picked
        rw [← length_leftAfter within] at rest rest'
        rw [inductionHypothesis (nodup_leftAfter within distinct).2
          ⟨Nat.succ.inj firstSized, rest⟩ ⟨Nat.succ.inj secondSized, rest'⟩ later]

theorem arrange_surjOn (distinct : items.Nodup) (length : Nat) :
    Set.SurjOn (arrange items) (Choices items.length length) (Arrangements items length) := by
  induction length generalizing items with
  | zero =>
    rintro list ⟨empty, -⟩
    rw [List.length_eq_zero_iff.mp empty]
    exact ⟨[], ⟨rfl, trivial⟩, rfl⟩
  | succ length inductionHypothesis =>
    rintro list ⟨sized, distinctList, among⟩
    cases list with
    | nil => exact absurd sized (Nat.succ_ne_zero _).symm
    | cons item list =>
      obtain ⟨fresh, distinctRest⟩ := List.nodup_cons.mp distinctList
      obtain ⟨member, amongRest⟩ := List.forall_mem_cons.mp among
      obtain ⟨place, within, rfl⟩ := List.getElem_of_mem member
      have left : ∀ other ∈ list, other ∈ leftAfter items place := by
        intro other inList
        refine (mem_leftAfter within distinct).mpr ⟨amongRest other inList, ?_⟩
        rintro rfl
        exact fresh inList
      obtain ⟨places, ⟨placesSized, choices⟩, arranged⟩ := inductionHypothesis
        (nodup_leftAfter within distinct).2 ⟨Nat.succ.inj sized, distinctRest, left⟩
      rw [length_leftAfter within] at choices
      refine ⟨place :: places, ⟨congrArg Nat.succ placesSized, within, choices⟩, ?_⟩
      rw [arrange_cons within, arranged]

/-- Sequences of places are in bijection with the arrangements of their length. -/
theorem arrange_bijOn (distinct : items.Nodup) (length : Nat) :
    Set.BijOn (arrange items) (Choices items.length length) (Arrangements items length) :=
  ⟨arrange_mapsTo distinct length, arrange_injOn distinct length, arrange_surjOn distinct length⟩

end FisherYates

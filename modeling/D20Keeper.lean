import D20Keeper.MappingReplay
import D20Keeper.VrfReplay
import D20Keeper.RoundCache
import D20Keeper.LifeCycle
import D20Keeper.EpochSeed
import D20Keeper.Solvency
import D20Keeper.Parking
import D20Keeper.BatchAccounts
import D20Keeper.RoundJobs
import D20Keeper.Suspicion
import D20Keeper.ScheduleReplay
import D20Keeper.SelectionReplay
import D20Keeper.SoftBytes
import D20Keeper.MigrationOwners
import D20Keeper.MigrationResume
import D20Keeper.GasGuard
import D20Keeper.PendingScan
import D20Keeper.EpochLadder
import D20Keeper.MigrationIsolation
import D20Keeper.PrimaryLiveness
import D20Keeper.Sweep
import D20Keeper.ClockBehind
import D20Keeper.FetchFailures
import D20Keeper.Relays
import D20Keeper.RpcBatch
import D20Keeper.TemplateText
import D20Keeper.Telemetry
import D20Keeper.BeaconDigits

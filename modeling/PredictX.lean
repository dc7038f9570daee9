import PredictX.PoolBacking
import PredictX.EmergencyWindow
import PredictX.MatchLifecycle
import PredictX.FinishedMatches
import PredictX.PollFreeze
import PredictX.Identifiers
import PredictX.AdminAuthority
import PredictX.Bystanders
import PredictX.ErrorReturns
import PredictX.EventJournal
import PredictX.Pausing
import PredictX.ProportionalShares
import PredictX.WinningsPreview
import PredictX.PreviewMonotonicity
import PredictX.Interchange
import PredictX.UserCalls
import PredictX.CommutingCalls
import PredictX.Wealth
import PredictX.Settlement
import PredictX.Verdicts
import PredictX.Headroom
import PredictX.ErrorSurface
import PredictX.Recovery
import PredictX.StorageKeys
import PredictX.OpenBetting
import PredictX.CrowdedMatches
import PredictX.Views
import PredictX.Treasury
import PredictX.PollFactory
import PredictX.BettingIndependence
import PredictX.Provenance
import PredictX.UnattendedPolls
import PredictX.Chronology
import PredictX.Symmetry

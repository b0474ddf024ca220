import DailyTrivia.Async
import DailyTrivia.DocumentWrites
import DailyTrivia.TaskFlow
import DailyTrivia.GameViews
import DailyTrivia.AccountCreation
import DailyTrivia.Readback
import DailyTrivia.ResponseSlots
import DailyTrivia.SubmissionFailure
import DailyTrivia.OneAnswer
import DailyTrivia.StreakUpdates
import DailyTrivia.Sessions
import DailyTrivia.Players
import DailyTrivia.UsernameEntry
import DailyTrivia.SoloHistory
import DailyTrivia.CalendarStreaks
import DailyTrivia.Logouts
import DailyTrivia.ReviewTurns
import DailyTrivia.Staleness
import DailyTrivia.References
import DailyTrivia.UsernameKeys
import DailyTrivia.AddressKeys
import DailyTrivia.CloudFunction
import DailyTrivia.Grading
import DailyTrivia.Submissions
import DailyTrivia.CorrectAnswers
import DailyTrivia.Acknowledgements
import DailyTrivia.LoadingState
import DailyTrivia.DayKeys
import DailyTrivia.Parts
import DailyTrivia.Database
import DailyTrivia.StreakRecords
import DailyTrivia.Parties
import DailyTrivia.AmongOthers
import DailyTrivia.Programs
import DailyTrivia.LeaderboardView
import DailyTrivia.CloudRequests
import DailyTrivia.WholeSystem
import DailyTrivia.Termination
import DailyTrivia.Rest
import DailyTrivia.UsernameSheet
import DailyTrivia.Provenance
import DailyTrivia.Authenticity
import DailyTrivia.EarnedStreaks
import DailyTrivia.Screens
import DailyTrivia.FreshLaunch
import DailyTrivia.Addressing

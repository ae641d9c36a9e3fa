import Scoreboard.Api.RequestTarget
import Scoreboard.Main
import Scoreboard.Rehearsal.Run
import Scoreboard.Proofs.Relay.Documents
import Scoreboard.Proofs.Dashboards.OverlayStream
import Scoreboard.Proofs.Dashboards.CatchUp
import Scoreboard.Proofs.Notifications.Delivery
import Scoreboard.Proofs.Notifications.GameOver
import Scoreboard.Proofs.Notifications.Lifetimes
import Scoreboard.Proofs.Ranking.Processing
import Scoreboard.Proofs.Ranking.FirstBlood
import Scoreboard.Proofs.Ranking.Histories
import Scoreboard.Proofs.Ranking.Following
import Scoreboard.Proofs.Ranking.Overtaking
import Scoreboard.Proofs.Ranking.Publication
import Scoreboard.Proofs.Relay.Polls
import Scoreboard.Proofs.Relay.Outcomes
import Scoreboard.Proofs.Ranking.Growth
import Scoreboard.Proofs.Ranking.Memoisation
import Scoreboard.Proofs.Decimal.Finite
import Scoreboard.Proofs.Document.Plain
import Scoreboard.Proofs.Document.Scored
import Scoreboard.Proofs.Notifications.Tokens
import Scoreboard.Proofs.Pacing.Spacing
import Scoreboard.Proofs.Pacing.Retries
import Scoreboard.Proofs.Calendar.Days
import Scoreboard.Proofs.Text.Blanks
import Scoreboard.Proofs.Calendar.HttpDates
import Scoreboard.Proofs.Clock.Offset
import Scoreboard.Proofs.Words
import Scoreboard.Proofs.Clock.Countdown
import Scoreboard.Proofs.Clock.Timing
import Scoreboard.Proofs.Ranking.Alignment
import Scoreboard.Proofs.Pacing.Jitter
import Scoreboard.Proofs.Clock.PollCadence
import Scoreboard.Proofs.Document.StateDocument
import Scoreboard.Proofs.Document.TeamDirectory
import Scoreboard.Proofs.Document.CutOff
import Scoreboard.Proofs.Ranking.Podium
import Scoreboard.Proofs.Ranking.Answers
import Scoreboard.Proofs.Ranking.Coverage
import Scoreboard.Proofs.Ranking.Totals
import Scoreboard.Proofs.Dashboards.Payloads
import Scoreboard.Proofs.Relay.TeamLoading
import Scoreboard.Proofs.Document.SettingsFile
import Scoreboard.Proofs.Ranking.Telescoping
import Scoreboard.Proofs.Text.Countdown

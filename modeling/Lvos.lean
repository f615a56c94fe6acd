import Lvos.Agent.Settings
import Lvos.Core.Canonical
import Lvos.Core.KeyText
import Lvos.Core.LanguageGrammar
import Lvos.Desktop.Logins
import Lvos.Desktop.RevisionStream
import Lvos.Desktop.Update
import Lvos.Ipc.FrameStream
import Lvos.Lib.Transition
import Lvos.Platform.Capture
import Lvos.Server.Admission
import Lvos.Server.Backup
import Lvos.Server.Concurrency
import Lvos.Server.ExactlyOnce
import Lvos.Server.Limiter
import Lvos.Server.Migrations
import Lvos.Server.Tokens
import Lvos.Storage.Opening
import Lvos.Storage.RemotePage
import Lvos.System.Acknowledgements
import Lvos.System.Buildable
import Lvos.System.Compensation
import Lvos.System.Consent
import Lvos.System.ContentIdentity
import Lvos.System.Cycles
import Lvos.System.Domain
import Lvos.System.Freshness
import Lvos.System.Generations
import Lvos.System.Imports
import Lvos.System.LastIntent
import Lvos.System.Limits
import Lvos.System.Logout
import Lvos.System.NewerIntent
import Lvos.System.Overflows
import Lvos.System.PopupActs
import Lvos.System.Legible
import Lvos.System.Refreshes
import Lvos.System.Replays
import Lvos.System.Restores
import Lvos.System.Retries
import Lvos.System.Revisions
import Lvos.System.Rotation
import Lvos.System.Startup
import Lvos.System.Totals
import Lvos.System.Wakes
import Lvos.System.WriteBack

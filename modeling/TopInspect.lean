import TopInspect.Resumption
import TopInspect.Interleaving
import TopInspect.Serial
import TopInspect.RowTable
import TopInspect.AuthSchema
import TopInspect.AuthStatements
import TopInspect.AuthHandlers
import TopInspect.AuthExecution
import TopInspect.OtpVerification
import TopInspect.OtpRaces
import TopInspect.OtpReissues
import TopInspect.OtpServing
import TopInspect.OtpHistory
import TopInspect.OtpCooldown
import TopInspect.SessionPaths
import TopInspect.SessionRaces
import TopInspect.SessionServing
import TopInspect.SessionHistory
import TopInspect.SignInSoundness
import TopInspect.ClientStore
import TopInspect.ClientApi
import TopInspect.ClientSegments
import TopInspect.ClientLock
import TopInspect.ClientSessions
import TopInspect.Staging
import TopInspect.AccountContract
import TopInspect.AccountTraces
import TopInspect.AccountIntegrity
import TopInspect.AccountCleanups
import TopInspect.SteadyServing
import TopInspect.HandlerExits
import TopInspect.PhoneLockout
import TopInspect.EmailSchema
import TopInspect.AccountEmails
import TopInspect.SignUpAgreement
import TopInspect.JsonText
import TopInspect.ProtectedRoutes
import TopInspect.TokenCauses
import TopInspect.SmsDestinations
import TopInspect.JsonBodies
import TopInspect.UrlPath
import TopInspect.UploadSigning
import TopInspect.ClientFailures
import TopInspect.ClientPromises
import TopInspect.RefreshReports
import TopInspect.ClientLoading
import TopInspect.ServerAnswers
import TopInspect.ClientTokens
import TopInspect.RefreshTurns
import TopInspect.BearerTokens
import TopInspect.SingleRefresh
import TopInspect.SessionSurvival
import TopInspect.AnswerEffects
import TopInspect.PhoneIsolation
import TopInspect.AgeGate
import TopInspect.MailAddresses
import TopInspect.ImageChanges
import TopInspect.ImageUpload
import TopInspect.ImageUrls
import TopInspect.ImageDisplay
import TopInspect.Toasts
import TopInspect.ImageEdits
import TopInspect.ImageBounds
import TopInspect.Splitting
import TopInspect.Utf16
import TopInspect.ErrorVerdicts
import TopInspect.WordCase
import TopInspect.Numerals
import TopInspect.CodeSchemas
import TopInspect.RefreshTokens
import TopInspect.Rejections
import TopInspect.OtpCodes
import TopInspect.TickContracts
import TopInspect.ServerTerms
import TopInspect.Network
import TopInspect.ClockWindows
import TopInspect.TokenLedger
import TopInspect.TokenStoring
import TopInspect.TokenAgreement
import TopInspect.Components
import TopInspect.AuthBodies
import TopInspect.Forms
import TopInspect.ScreenRoutes
import TopInspect.ScreenContracts
import TopInspect.OtpScreens
import TopInspect.SignUpWizard
import TopInspect.LoginScreens
import TopInspect.AuthScreens
import TopInspect.ResendTimer
import TopInspect.StoredRows
import TopInspect.PercentText
import TopInspect.StorageService
import TopInspect.SignedUploads
import TopInspect.TypedProfiles
import TopInspect.Binary64
import TopInspect.ToastTimes
import TopInspect.UploadQueries
import TopInspect.ImageGrid

import TopInspect.AuthScreens
import TopInspect.SessionOrigins

/-! From the wizard to the database. Apps send what their screens are given, the server runs its
requests in any order and may fail at any statement, and what a profile says is still what
somebody has handed on from a wizard. -/
namespace TopInspect.TypedProfiles

open AuthSchema AuthStatements AuthHandlers Interleaving
open AccountContract (Opens)
open SessionOrigins (Done profileOf brought_once upheld_any)
open AgeGate (Date)
open AuthBodies (Value phoneSignupSchema)
open ScreenRoutes (Device Store Effect)
open AuthScreens (Dated Allowed app pushes_justified)
open Components (Move)
open Components.System (Permitted justified_at)
open Live

structure AppRun where
  device : Device
  mounted : Date
  moves : List (Move Store Dated)

def AppRun.log (run : AppRun) : List Effect :=
  ((app run.device run.mounted).run (AuthScreens.start run.device run.mounted) run.moves).emitted

section Sample
open AuthScreens (signingUp signing_up_permitted signed_up_log signUpSent sampleDay)
open ScreenRoutes (sampleDevice)

def ada : AppRun where
  device := sampleDevice
  mounted := sampleDay
  moves := signingUp

end Sample

end TopInspect.TypedProfiles

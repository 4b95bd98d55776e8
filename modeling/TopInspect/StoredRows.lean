import TopInspect.OtpCodes
import TopInspect.RefreshTokens
import TopInspect.SessionOrigins

/-! What the server stores and hands out comes back through its own schemas: the codes and the
tokens of the two generators, in every row and every answer of every run. -/
namespace TopInspect.StoredRows

open AuthSchema AuthStatements AuthHandlers.AUTH_CONFIG SessionOrigins
open AuthHandlers (Env Request Response AccessToken server minutes sampleEnv tickAt)
open AuthHandlers.Live
open OtpCodes (generateOTP generate_draws accepted drawn_six)
open RefreshTokens (generateRefreshToken token_accepted zeros)
open Rejections (draw draw_cases)
open Interleaving (start)

theorem code_accepted (bytes rest : List UInt8) (code : String)
    (drawn : generateOTP bytes = some (code, rest)) :
    CodeSchemas.otp code = .ok code := by
  rw [generate_draws] at drawn
  rcases @draw_cases _ accepted 6 bytes with ⟨stuck, -⟩ | ⟨used, left, -, closes, taken⟩
  · rw [stuck] at drawn
    cases drawn
  · rw [taken] at drawn
    obtain ⟨rfl, -⟩ := Prod.mk.inj (Option.some.inj drawn)
    exact (CodeSchemas.otp_unchanged _).mpr (drawn_six used closes)

def generated : Draws where
  fair tick := (∃ bytes rest, generateOTP bytes = some (tick.otpCode, rest)) ∧
    ∃ bytes, generateRefreshToken bytes = tick.refreshToken
  code code := CodeSchemas.otp code = .ok code
  token token := CodeSchemas.refreshToken token = .ok token
  codes := by
    rintro tick ⟨⟨bytes, rest, drawn⟩, -⟩
    exact code_accepted bytes rest tick.otpCode drawn
  tokens := by
    rintro tick ⟨-, bytes, drawn⟩
    exact drawn ▸ token_accepted bytes

/-- The schemas take every code and token of a state as it is, and no row of a code has outgrown
its attempts or its window. -/
structure TakenBack (state : State) : Prop where
  codes : ∀ phone otp, state.world.findOtp phone = some otp →
    CodeSchemas.otp otp.code = .ok otp.code
  attempts : ∀ phone otp, state.world.findOtp phone = some otp → otp.attempts ≤ OTP_MAX_ATTEMPTS
  window : ∀ phone otp, state.world.findOtp phone = some otp →
    otp.expiresAt = otp.createdAt + minutes OTP_EXPIRY_MINUTES
  tokens : ∀ row ∈ state.world.tokens.rows, CodeSchemas.refreshToken row.token = .ok row.token
  answers : ∀ index request response access refresh, Replied state index request response →
    response.body = .tokens access refresh → CodeSchemas.refreshToken refresh = .ok refresh

/-- Whatever interleaves or fails. -/
theorem rows_taken_back (env : Env) (schedule : List Action)
    (fair : ∀ action ∈ schedule, Fair generated action) :
    TakenBack ((server env).run (start Db.empty) schedule) := by
  have upheld := upheld_reached env generated schedule fair
  refine ⟨fun phone otp found => (upheld.rows.otps phone otp found).2.code,
    fun phone otp found => (upheld.rows.otps phone otp found).2.attempts,
    fun phone otp found => (upheld.rows.otps phone otp found).2.expires,
    fun row member => (upheld.rows.sessions row member).2, ?_⟩
  rintro index request response access refresh ⟨task, present, rfl, done⟩ tokens
  have bound := upheld.bound _ List.suffix_rfl
  exact (TickContracts.bound_done _ bound index task _ present done access refresh tokens).drawn

def drawnTick (present : Time) : Tick :=
  { tickAt present "a" with otpCode := "777777", refreshToken := generateRefreshToken zeros }

theorem drawn_tick_fair (present : Time) : generated.fair (drawnTick present) := by
  have sevens : generateOTP (List.replicate 6 107) = some ("777777", []) := by decide
  exact ⟨⟨List.replicate 6 107, [], sevens⟩, zeros, rfl⟩

def drawnRun : List Action :=
  .arrive (.requestOTP { phone := samplePhone, purpose := .signup }) (drawnTick 0) ::
    List.replicate 4 (.advance 0 (drawnTick 0))

theorem rows_taken_back_drawn : TakenBack ((server sampleEnv).run (start Db.empty) drawnRun) :=
  rows_taken_back sampleEnv drawnRun fun action member => by
    rcases List.mem_cons.mp member with rfl | later
    · exact drawn_tick_fair 0
    · obtain rfl := List.eq_of_mem_replicate later
      exact drawn_tick_fair 0

end TopInspect.StoredRows

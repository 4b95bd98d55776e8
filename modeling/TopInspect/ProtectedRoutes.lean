import TopInspect.AuthHandlers
import TopInspect.EmailSchema

/-! The upload routes of handlers/upload.ts behind requireAuth of
modules/auth/middleware.ts, with the json and error middlewares around them. What
they throw is always an `Error`. A visit is what one request to them meets: the
clock, the database, the body of the request and the storage service. -/
namespace TopInspect.ProtectedRoutes

open AuthSchema
open AuthHandlers (truthy)
open EmailSchema (isSpace)

inductive Thrown where
  | zodError (message : String)
  | error (message : String)

def Thrown.message : Thrown → String
  | .zodError message => message
  | .error message => message

def includes (text part : String) : Bool := part.toList <:+: text.toList

/-- The length of a JavaScript string, in UTF-16 units. -/
def jsLength (text : String) : Nat :=
  (text.toList.map fun letter => if 0x10000 ≤ letter.toNat then 2 else 1).sum

/-- What comes before the first such letter, `text.split(letter)[0]`. -/
def splitFirst (letter : Char) (text : String) : String :=
  String.ofList (text.toList.takeWhile fun other => other ≠ letter)

structure UploadFields where
  key : String
  contentType : String

inductive Body where
  | upload (imageId : String) (fields : Option UploadFields)
  | error (error code : String)

structure Response where
  status : Nat
  body : Body

namespace res
def ok (body : Body) : Response := { status := 200, body }
def err (error : String) (status : Nat) (code : String) : Response :=
  { status, body := .error error code }
def missingToken : Response := err "Access token required" 401 "MISSING_TOKEN"
def invalidToken : Response := err "Invalid access token" 401 "INVALID_TOKEN"
def expiredToken : Response := err "Access token expired" 401 "EXPIRED_TOKEN"
def conflict (error : String) : Response := err error 409 "CONFLICT"
def validationError : Response := err "Validation failed" 422 "VALIDATION_ERROR"
def internalError (error : String) : Response := err error 500 "INTERNAL_ERROR"
def serviceUnavailable (error : String) : Response := err error 503 "SERVICE_UNAVAILABLE"
end res

structure CloudflareBindings where
  ENV : Option String
  DATABASE_URL : Option String
  R2_ACCESS_KEY_ID : Option String
  R2_SECRET_ACCESS_KEY : Option String
  R2_BUCKET_NAME : Option String
  R2_PUBLIC_URL : Option String
  R2_ENDPOINT : Option String

structure JwtPayload where
  sub : String
  iat : Int
  exp : Int

/-- The deployment, JSON.parse, and hono's `verify` under its secret. -/
structure Deployment where
  env : CloudflareBindings
  isJson : String → Bool
  verify : Time → String → Except String JwtPayload

structure PresignedUrlRequest where
  contentType : String
  fileName : String

structure DirectUploadQuery where
  key : String
  contentType : String

structure UploadResponse where
  ok : Bool
  status : Nat
  text : Except String String

/-- `outage` is the message of what the users lookup throws, if it does. A body
that is not sent as JSON has no `rawBody`, one without the fields no `presigned`. -/
structure Visit where
  now : Time
  connect : Except String Unit
  outage : Option String
  db : Db
  rawBody : Option String
  presigned : Option PresignedUrlRequest
  query : Option DirectUploadQuery
  arrayBuffer : Except String Unit
  signature : Except String Unit
  fetch : Except String UploadResponse

inductive Route where
  | presignedUrl
  | directUpload

section Routes
variable (deployment : Deployment) (visit : Visit)

def isDev : Bool := deployment.env.ENV = some "development"

-- An `Error` thrown by what lies outside.
def outside {α : Type} (result : Except String α) : Except Thrown α := result.mapError .error

def getDb : Except Thrown Unit :=
  match truthy deployment.env.DATABASE_URL with
  | none => .error (.error "DATABASE_URL is not set in the environment variables")
  | some _ =>
      visit.connect.mapError fun message =>
        .error ("Failed to initialize database connection: " ++ message)

def errorHandler (err : Thrown) : Response :=
  match err with
  | .zodError _ => res.validationError
  | .error message =>
      if includes message "duplicate key" then res.conflict "Resource already exists"
      else if includes message "connection" || includes message "timeout" then
        res.serviceUnavailable "Database temporarily unavailable"
      else if isDev deployment then res.internalError ("Internal error: " ++ message)
      else res.internalError "Internal server error"

/-- The router hands what a handler throws to the error handler. -/
def dispatch (result : Except Thrown Response) : Response :=
  match result with
  | .ok response => response
  | .error err => errorHandler deployment err

/-- The refusal of a JSON body that is blank, too large or malformed. -/
def json : Option Response :=
  match visit.rawBody with
  | none => none
  | some rawBody =>
      if rawBody.toList.all isSpace then some res.validationError
      else if jsLength rawBody > 1024 * 1024 then some res.validationError
      else if deployment.isJson rawBody then none
      else some res.validationError

def imageTypes : List String := ["image/jpeg", "image/jpg", "image/png", "image/webp"]

def presignedUrlSchema (value : PresignedUrlRequest) : Bool :=
  imageTypes.contains value.contentType && value.fileName ≠ "" && jsLength value.fileName ≤ 100

def directUploadQuerySchema (value : DirectUploadQuery) : Bool :=
  value.key ≠ "" && imageTypes.contains value.contentType

def validate {α : Type} (schema : α → Bool) (value : Option α)
    (handler : α → Except Thrown Response) : Response :=
  match value.filter schema with
  | none => res.validationError
  | some validated => dispatch deployment (handler validated)

def generatePresignedUrl (validated : PresignedUrlRequest) : Except Thrown Response :=
  let key := validated.fileName
  let fields := { key, contentType := validated.contentType }
  .ok (res.ok (.upload (splitFirst '.' key) (some fields)))

/-- The endpoint of the storage service, once its configuration is complete. -/
def getR2Config : Except Thrown String :=
  let env := deployment.env
  let missing : Except Thrown String := .error (.error "R2 configuration is missing")
  if (!isDev deployment && (truthy env.R2_ACCESS_KEY_ID).isNone) ||
      (!isDev deployment && (truthy env.R2_SECRET_ACCESS_KEY).isNone) ||
      (truthy env.R2_BUCKET_NAME).isNone || (truthy env.R2_PUBLIC_URL).isNone then missing
  else
    match truthy env.R2_ENDPOINT with
    | none => missing
    | some endpoint => .ok endpoint

def directUpload (validated : DirectUploadQuery) : Except Thrown Response := do
  let endpoint ← getR2Config deployment
  outside visit.arrayBuffer
  if includes endpoint "cloudflarestorage.com" then
    outside visit.signature
  let uploadResponse ← outside visit.fetch
  if !uploadResponse.ok then
    let errorText ← outside uploadResponse.text
    throw (.error ("Upload failed: " ++ toString uploadResponse.status ++ " - " ++ errorText))
  return res.ok (.upload (splitFirst '.' validated.key) none)

/-- What requireAuth's `next()` comes to. -/
def next : Route → Response
  | .presignedUrl => validate deployment presignedUrlSchema visit.presigned generatePresignedUrl
  | .directUpload =>
      validate deployment directUploadQuerySchema visit.query (directUpload deployment visit)

/-- `authHeader.split(" ")[1]` of a header that starts with `Bearer `. -/
def bearerToken (authHeader : String) : Option String :=
  (authHeader.toList.dropPrefix? "Bearer ".toList).map fun rest =>
    splitFirst ' ' (String.ofList rest)

def selectUser (id : String) : Except Thrown (Option User) :=
  match visit.outage with
  | some message => .error (.error message)
  | none => .ok (visit.db.findUser id)

/-- The try block of requireAuth. -/
def checkToken (token : String) (proceed : Response) : Except Thrown Response := do
  let decoded ← outside (deployment.verify visit.now token)
  match ← selectUser visit decoded.sub with
  | none => return res.conflict "Profile required"
  | some _ => return proceed

def requireAuth (authHeader : Option String) (proceed : Response) : Except Thrown Response := do
  getDb deployment visit
  match authHeader.bind bearerToken with
  | none => return res.missingToken
  | some token =>
      match checkToken deployment visit token proceed with
      | .ok response => return response
      | .error thrown =>
          if includes thrown.message "expired" then return res.expiredToken
          else return res.invalidToken

def serve (route : Route) (authHeader : Option String) : Response :=
  match json deployment visit with
  | some refusal => refusal
  | none =>
      dispatch deployment (requireAuth deployment visit authHeader (next deployment visit route))

/-- The token a header presents, if any, is genuine and its user exists. -/
def presentsUser (authHeader : Option String) : Bool :=
  match authHeader.bind bearerToken with
  | none => true
  | some token =>
      match deployment.verify visit.now token with
      | .ok decoded => (visit.db.findUser decoded.sub).isSome
      | .error _ => false

/-- What the users lookup of this visit throws, where the visit gets that far. -/
def lookupThrown (authHeader : Option String) : Option String :=
  match json deployment visit, getDb deployment visit, authHeader.bind bearerToken with
  | none, .ok (), some _ => visit.outage
  | _, _, _ => none

end Routes

/-! Which answers tell a client that its access token is bad. -/
section Answers
variable (deployment : Deployment) (visit : Visit)

/-- An answer that is about something else than the token presented. -/
def Unrelated (response : Response) : Prop :=
  response.status ≠ 401 ∨ ∃ error, response.body = .error error "MISSING_TOKEN"

theorem handled_unrelated (err : Thrown) : Unrelated (errorHandler deployment err) := by
  apply Or.inl
  unfold errorHandler
  split
  · decide
  · split
    · simp [res.conflict, res.err]
    · split
      · simp [res.serviceUnavailable, res.err]
      · split <;> simp [res.internalError, res.err]

theorem dispatch_unrelated (result : Except Thrown Response)
    (answers : ∀ response, result = .ok response → Unrelated response) :
    Unrelated (dispatch deployment result) := by
  cases result with
  | ok response => exact answers response rfl
  | error err => exact handled_unrelated deployment err

theorem validate_unrelated {α : Type} (schema : α → Bool) (value : Option α)
    (handler : α → Except Thrown Response)
    (answers : ∀ validated response, handler validated = .ok response → Unrelated response) :
    Unrelated (validate deployment schema value handler) := by
  unfold validate
  split
  · exact Or.inl (by decide)
  · exact dispatch_unrelated deployment _ (answers _)

theorem bind_ok {α β : Type} (first : Except Thrown α) (rest : α → Except Thrown β) (value : β)
    (answered : (first >>= rest) = .ok value) : ∃ middle, rest middle = .ok value := by
  cases first with
  | error thrown => cases answered
  | ok middle => exact ⟨middle, answered⟩

theorem upload_unrelated (validated : DirectUploadQuery) (response : Response)
    (answered : directUpload deployment visit validated = .ok response) : Unrelated response := by
  have uploaded : ∀ uploadResponse : UploadResponse,
      (do
        if !uploadResponse.ok then
          let errorText ← outside uploadResponse.text
          throw (.error ("Upload failed: " ++ toString uploadResponse.status ++ " - " ++ errorText))
        return res.ok (.upload (splitFirst '.' validated.key) none)) = Except.ok response →
      Unrelated response := by
    intro uploadResponse finished
    cases fine : uploadResponse.ok with
    | true =>
        simp only [fine] at finished
        cases finished
        exact Or.inl (by simp [res.ok])
    | false =>
        simp only [fine] at finished
        obtain ⟨errorText, impossible⟩ := bind_ok _ _ _ finished
        cases impossible
  obtain ⟨endpoint, configured⟩ := bind_ok _ _ _ answered
  obtain ⟨_, read⟩ := bind_ok _ _ _ configured
  split at read
  · obtain ⟨_, signed⟩ := bind_ok _ _ _ read
    obtain ⟨uploadResponse, fetched⟩ := bind_ok _ _ _ signed
    exact uploaded uploadResponse fetched
  · obtain ⟨uploadResponse, fetched⟩ := bind_ok _ _ _ read
    exact uploaded uploadResponse fetched

theorem next_unrelated (route : Route) : Unrelated (next deployment visit route) := by
  cases route with
  | presignedUrl =>
      apply validate_unrelated
      intro validated response answered
      cases answered
      exact Or.inl (by simp [res.ok])
  | directUpload =>
      apply validate_unrelated
      exact upload_unrelated deployment visit

theorem json_unrelated (refusal : Response) (refuses : json deployment visit = some refusal) :
    Unrelated refusal := by
  have invalid : refusal = res.validationError := by
    unfold json at refuses
    grind
  rw [invalid]
  exact Or.inl (by decide)

/-- requireAuth refuses a user's genuine token only when the lookup throws. -/
theorem checked_cases (token : String) (proceed : Response) (decoded : JwtPayload)
    (verified : deployment.verify visit.now token = .ok decoded)
    (known : (visit.db.findUser decoded.sub).isSome = true) :
    checkToken deployment visit token proceed =
      match visit.outage with
      | none => .ok proceed
      | some message => .error (.error message) := by
  obtain ⟨user, found⟩ := Option.isSome_iff_exists.mp known
  unfold checkToken outside
  rw [verified]
  cases broken : visit.outage with
  | none => simp [Except.mapError, bind, Except.bind, selectUser, broken, found]; rfl
  | some message => simp [Except.mapError, bind, Except.bind, selectUser, broken]

theorem serve_cases (route : Route) (authHeader : Option String)
    (genuine : presentsUser deployment visit authHeader = true) :
    match lookupThrown deployment visit authHeader with
    | none => Unrelated (serve deployment visit route authHeader)
    | some message => serve deployment visit route authHeader =
        if includes message "expired" then res.expiredToken else res.invalidToken := by
  unfold lookupThrown serve
  cases screened : json deployment visit with
  | some refusal => exact json_unrelated deployment visit refusal screened
  | none =>
      unfold requireAuth
      cases connected : getDb deployment visit with
      | error err => exact handled_unrelated deployment err
      | ok _ =>
          cases presented : authHeader.bind bearerToken with
          | none => exact Or.inr ⟨_, rfl⟩
          | some token =>
              simp only [presentsUser, presented] at genuine
              cases verified : deployment.verify visit.now token with
              | error message => simp [verified] at genuine
              | ok decoded =>
                  simp only [verified] at genuine
                  have checked := checked_cases deployment visit token
                    (next deployment visit route) decoded verified genuine
                  simp only [bind, Except.bind, checked]
                  cases broken : visit.outage with
                  | none => exact next_unrelated deployment visit route
                  | some message =>
                      by_cases late : includes message "expired" = true
                      · simp [Thrown.message, late, dispatch, pure, Except.pure]
                      · simp [Thrown.message, late, dispatch, pure, Except.pure]

end Answers
end TopInspect.ProtectedRoutes

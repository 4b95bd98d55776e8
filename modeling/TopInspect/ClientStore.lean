import TopInspect.AuthHandlers

/-! The client's auth store of packages/auth/expo (store.ts, util.ts) with the
operations its functions perform on it. Null and undefined are `none`. -/
namespace TopInspect.ClientStore

open AuthHandlers

structure AuthStore where
  accessToken : Option String
  refreshToken : Option String
  isAuthenticated : Bool
  isAuthLoading : Bool
  isLoading : Bool
  error : Option String
  deriving DecidableEq

namespace AuthStore

def initial : AuthStore where
  accessToken := none
  refreshToken := none
  isAuthenticated := false
  isAuthLoading := true
  isLoading := false
  error := none

def clearError (store : AuthStore) : AuthStore := { store with error := none }

def clearUI (store : AuthStore) : AuthStore := { store with isLoading := false, error := none }

-- isAuthLoading stays as it is.
def clearAll (store : AuthStore) : AuthStore :=
  { store with
    accessToken := none
    refreshToken := none
    isAuthenticated := false
    isLoading := false
    error := none }

structure Persisted where
  accessToken : Option String
  refreshToken : Option String
  isAuthenticated : Bool
  deriving DecidableEq

def partialize (store : AuthStore) : Persisted where
  accessToken := store.accessToken
  refreshToken := store.refreshToken
  isAuthenticated := store.isAuthenticated

def rehydrate (store : AuthStore) (persisted : Persisted) : AuthStore :=
  { store with
    accessToken := persisted.accessToken
    refreshToken := persisted.refreshToken
    isAuthenticated := persisted.isAuthenticated
    isAuthLoading := false }

/-- `setState({ isLoading: true, error: null })`, the start of every operation. -/
def beginLoading (store : AuthStore) : AuthStore := { store with isLoading := true, error := none }

end AuthStore

/-- What is thrown or rejected with: an `ErrorResponse`, a JavaScript `Error`, or
the body of an error answer, which may lack any of the fields. -/
structure ErrorResponse where
  error : Option String
  code : Option String
  message : Option String
  deriving DecidableEq

def ErrorResponse.plain (message : String) : ErrorResponse :=
  { error := none, code := none, message := some message }

def ErrorResponse.coded (error code : String) : ErrorResponse :=
  { error := some error, code := some code, message := none }

def UNKNOWN_ERROR : ErrorResponse := .coded "An unexpected error occurred." "UNKNOWN_ERROR"

/-- The body of a 2xx answer, as far as its readers look at it. -/
structure ResponseData where
  accessToken : Option String
  refreshToken : Option String
  userExists : Option Bool
  needsSignup : Bool
  provider : Option String
  providerId : Option String
  email : Option String
  deriving DecidableEq

/-- The body of an error answer. `data` is read when it is taken for an answer. -/
structure ErrorBody extends ErrorResponse where
  data : Option ResponseData
  deriving DecidableEq

/-- What setErrorState makes of an error before it is thrown on. -/
def errorOf (thrown : ErrorResponse) : ErrorResponse :=
  let errorMessage := (thrown.error <|> thrown.message).getD "An unexpected error occurred."
  let errorCode := thrown.code.getD "UNKNOWN_ERROR"
  { error := some errorMessage, code := some errorCode, message := some errorMessage }

def setErrorState (store : AuthStore) (thrown : ErrorResponse) : AuthStore × ErrorResponse :=
  ({ store with error := (errorOf thrown).error, isLoading := false }, errorOf thrown)

def AuthStore.tokens (store : AuthStore) : Option String × Option String :=
  (store.accessToken, store.refreshToken)

@[simp] theorem partialize_begin (store : AuthStore) :
    store.beginLoading.partialize = store.partialize := rfl

@[simp] theorem partialize_error (store : AuthStore) (thrown : ErrorResponse) :
    (setErrorState store thrown).1.partialize = store.partialize := rfl

@[simp] theorem partialize_rehydrate (store : AuthStore) (persisted : AuthStore.Persisted) :
    (store.rehydrate persisted).partialize = persisted := rfl

@[simp] theorem tokens_clear (store : AuthStore) : store.clearAll.tokens = (none, none) := rfl

end TopInspect.ClientStore

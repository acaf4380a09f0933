import Coderd.ExternalAuth.Links
import Coderd.Foundation.Alone
import Coderd.Foundation.Json
import Coderd.Foundation.Texts

namespace Coderd.TokenSets

open Coderd.Foundation
open Coderd.CryptoKeys (OffsetDateTime)
open Coderd.ExternalAuth hiding exec Choice externalAuth

/-! ## Fields of a response -/

def stringField (value : Json) (field : String) : Option String :=
  (value.get field).bind Json.asStr

/-- `i32::from_str`, without its errors. -/
def parseI32 (s : String) : Option ℤ :=
  ((parseI64 s).toOption.map Int64.toInt).filter fun n => decide (Fits 32 n)

/-- A number, or the text of one. -/
def integerField (value : Json) (field : String) : Option ℤ :=
  (value.get field).bind fun fieldValue =>
    (fieldValue.asI64.filter fun n => decide (Fits 32 n)).or (fieldValue.asStr.bind parseI32)

def responseScopes (response : Json) : List String :=
  match (response.get "scope").bind Json.asArray with
  | some values => values.filterMap Json.asStr
  | none =>
    match stringField response "scope" with
    | none => []
    | some value =>
      ((value.toList.splitOnP fun c => c = ' ' || c = ',').map String.ofList).filter
        fun scope => !isBlank scope

def externalAuthErrorDetail (response : Json) : Option String :=
  (stringField response "error").map fun error =>
    let description := (stringField response "error_description").getD ""
    if description.isEmpty then error else error ++ ": " ++ description

/-! ## Token sets -/

def nonExpiringTokenSecs : ℤ := 60 * 60 * 24 * 365 * 10

/-- The first time is the one that is counted from; the clock is read again if there is no such
time. -/
def expiresAt (now later : OffsetDateTime) (expiresIn : ℤ) : OffsetDateTime :=
  let secs := if expiresIn ≤ 0 then nonExpiringTokenSecs else expiresIn
  (now.add (secs * 10 ^ 9)).getD later

def parseTokenSet (now later : OffsetDateTime) (response : Json) :
    Except ProviderError ExternalAuthTokenSet :=
  match externalAuthErrorDetail response with
  | some detail => .error (.badRequest detail)
  | none =>
    match stringField response "access_token" with
    | none => .error (.internal "provider token response is missing access_token")
    | some accessToken => .ok
      { accessToken
        refreshToken := (stringField response "refresh_token").getD ""
        tokenType := (stringField response "token_type").getD ""
        scopes := responseScopes response
        expiresAt := expiresAt now later ((integerField response "expires_in").getD 0) }

/-- A response that is taken for a set of tokens. -/
def Successful (response : Json) : Prop :=
  externalAuthErrorDetail response = none ∧ (stringField response "access_token").isSome = true

instance (response : Json) : Decidable (Successful response) :=
  inferInstanceAs (Decidable (_ ∧ _))

theorem successful_iff {now later : OffsetDateTime} {response : Json} :
    Successful response ↔ ∃ tokens, parseTokenSet now later response = .ok tokens := by
  unfold Successful parseTokenSet
  cases externalAuthErrorDetail response with
  | some detail => simp
  | none => cases stringField response "access_token" <;> simp

theorem refreshToken_of_parse {now later : OffsetDateTime} {response : Json}
    {tokens : ExternalAuthTokenSet} (h : parseTokenSet now later response = .ok tokens) :
    tokens.refreshToken = (stringField response "refresh_token").getD "" := by
  unfold parseTokenSet at h
  split at h
  · cases h
  · split at h
    · cases h
    · cases h
      rfl

/-! ## The store and the providers -/

/-- What the code does not decide: whether a store call fails, what the clock shows, what the token
endpoint responds, and what the provider says of a token. -/
structure Choice where
  fails : Bool
  now : OffsetDateTime
  later : OffsetDateTime
  response : Except ProviderError Json
  validation : Except ProviderError ExternalAuthValidation

abbrev Links := HashMap Key ExternalAuthLink

/-- The provider may respond anything to a refresh. -/
def exec : (op : Op) → Links → Choice → Option (op.Response × Links)
  | .nowUtc, links, choice => some (choice.now, links)
  | .listExternalAuthLinks userId, links, choice =>
    if choice.fails then some (.error .unavailable, links)
    else some (.ok (links.selectAll fun key _ => key.1 = userId), links)
  | .findExternalAuthLink userId providerId, links, choice =>
    if choice.fails then some (.error .unavailable, links)
    else some (.ok (links.lookup (userId, providerId)), links)
  | .upsertExternalAuthLink key link, links, choice =>
    if choice.fails then some (.error .unavailable, links)
    else some (.ok link, links.insert key link)
  | .postRefresh _ _, links, choice =>
    some (choice.response.bind (parseTokenSet choice.now choice.later), links)
  | .validate _, links, choice => some (choice.validation, links)

/-- The service, over one store and providers that respond as they like. -/
def externalAuth (providers : List ExternalAuthLinkProvider) :
    Service Op Op.Response Unit Links Choice Request Empty where
  exec := exec
  enter := handle providers
  outside links _ := links

def linksAfter (providers : List ExternalAuthLinkProvider) (links : Links)
    (moves : List (Move Request Choice Empty)) : Links :=
  ((externalAuth providers).program.run { shared := links, tasks := [] } moves).shared

/-! ## Refreshes -/

/-- The two methods that refresh a link. -/
inductive Path where
  | reconcile (detail : Bool)
  | proactive

def Path.due (provider : ExternalAuthLinkProvider) (link : ExternalAuthLink)
    (now : OffsetDateTime) : Path → Bool
  | .reconcile _ => needsRefresh provider link now
  | .proactive => needsProactiveRefresh provider link now

def Path.program (provider : ExternalAuthLinkProvider) (key : Key) (link : ExternalAuthLink) :
    Path → Handler (Except StorageError ExternalAuthLink)
  | .reconcile detail => reconcileLink provider key link detail
  | .proactive => refreshIfExpiring provider key link

end Coderd.TokenSets

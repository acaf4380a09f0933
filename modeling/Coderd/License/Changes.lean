import Mathlib.Data.List.Sort
import Coderd.DbAuthz.Authorized
import Coderd.Foundation.Base64
import Coderd.Foundation.Calls
import Coderd.License.Service

namespace Coderd.License

open Coderd.Foundation
open CryptoKeys (OffsetDateTime)
open DbAuthz (StorageError)

/-! ## The table and the snapshot -/

/-- What the insert reads of the JSON claims: two fields, if they are there and integers. -/
structure ClaimsValue where
  licenseExpires : Option Int
  exp : Option Int

/-- `serde_json::to_value`. -/
def LicenseClaims.toValue (claims : LicenseClaims) : ClaimsValue where
  licenseExpires := some claims.licenseExpires
  exp := some claims.exp

structure LicenseRow where
  uuid : Uuid
  jwt : String
  deriving DecidableEq

/-- The table of licenses, and the snapshot of the `EntitlementSet`. -/
structure World where
  licenses : HashMap Int32 LicenseRow
  entitlements : Entitlements

/-- `list_licenses`, in the order of the ids. -/
def selectLicenses (licenses : HashMap Int32 LicenseRow) : List LicenseRecord :=
  (licenses.entries.map fun e => ⟨e.1, e.2.uuid, e.2.jwt⟩).insertionSort
    fun a b => a.id.toInt ≤ b.id.toInt

def expiryOf (claims : ClaimsValue) : Except StorageError OffsetDateTime :=
  match claims.licenseExpires <|> claims.exp with
  | none =>
    .error (.invalidData "license claims must contain 'license_expires' or 'exp' field")
  | some exp =>
    match fromUnixTimestamp exp with
    | none => .error (.invalidData "invalid expiry timestamp: timestamp out of range")
    | some expiry => .ok expiry

/-! ## Calls -/

/-- The service and the handlers reach the table each through a store of their own. -/
inductive Handle where
  | service
  | app
  deriving DecidableEq

inductive LicenseCall where
  | listLicenses
  | insertLicense (handle : Handle) (jwt : String) (claims : ClaimsValue)
  | deleteLicense (handle : Handle) (id : Int32)
  | updateEntitlements (entitlements : Entitlements)

def CallReply : LicenseCall → Type
  | .listLicenses => List LicenseRecord
  | .insertLicense _ _ _ => Except StorageError LicenseRecord
  | .deleteLicense _ _ => Bool
  | .updateEntitlements _ => Unit

/-- What the database draws for a new row. -/
structure Drawn where
  id : Int32
  uuid : Uuid

def World.exec : (op : LicenseCall) → World → Drawn → Option (CallReply op × World)
  | .listLicenses, w, _ => some (selectLicenses w.licenses, w)
  | .insertLicense _ jwt claims, w, drawn =>
    match expiryOf claims with
    | .error e => some (.error e, w)
    | .ok _ =>
      -- an id is drawn once
      if (w.licenses.lookup drawn.id).isSome then none
      else
        some (.ok ⟨drawn.id, drawn.uuid, jwt⟩,
          { w with licenses := w.licenses.insert drawn.id ⟨drawn.uuid, jwt⟩ })
  | .deleteLicense _ id, w, _ =>
    some ((w.licenses.lookup id).isSome, { w with licenses := w.licenses.erase id })
  | .updateEntitlements entitlements, w, _ => some ((), { w with entitlements })

/-! ## The service -/

inductive LicenseServiceError where
  | license (error : LicenseError)
  | storage (error : StorageError)
  deriving DecidableEq

namespace LicenseService

variable {DecodingKey Algorithm : Type} (validator : LicenseValidator DecodingKey Algorithm)
  (now : OffsetDateTime)

/-- The licenses are listed, and what they come to takes the place of the snapshot. -/
def refreshEntitlements : Calls LicenseCall CallReply (Except LicenseServiceError Unit) :=
  .call .listLicenses fun licenses =>
    .call (.updateEntitlements (License.refreshEntitlements validator now licenses)) fun _ =>
      .done (.ok ())

def addLicense (rawJwt : String) :
    Calls LicenseCall CallReply (Except LicenseServiceError LicenseRecord) :=
  match validator.validate rawJwt with
  | .error e => .done (.error (.license e))
  | .ok claims =>
    .call (.insertLicense .service rawJwt claims.toValue) fun
      | .error e => .done (.error (.storage e))
      | .ok record =>
        (refreshEntitlements validator now).bindOk fun _ => .done (.ok record)

def deleteLicense (id : Int32) :
    Calls LicenseCall CallReply (Except LicenseServiceError Bool) :=
  .call (.deleteLicense .service id) fun (deleted : Bool) =>
    if deleted then
      (refreshEntitlements validator now).bindOk fun _ => .done (.ok true)
    else .done (.ok false)

end LicenseService

/-! ## The handlers -/

inductive AppError where
  | badRequest (message : String) (detail : Option String)
  | storage (error : StorageError)
  deriving DecidableEq

inductive Response where
  | unauthorized (message : String)
  | badRequest (message detail : String)
  | notFound (message : String)
  | created (license : LicenseRecord)
  | ok

/-- `serde_json::from_slice` at the payload of a token, with the text of its error. -/
abbrev PayloadFromSlice := List UInt8 → Except String ClaimsValue

/-- The payload is read without a check of the signature. -/
def decodePayload (fromSlice : PayloadFromSlice) (part : String) : Except AppError ClaimsValue :=
  match Base64.decodeUrlSafe part with
  | none => .error (.badRequest "Invalid license." (some "Failed to base64-decode JWT payload."))
  | some payloadBytes =>
    match fromSlice payloadBytes with
    | .error e =>
      .error (.badRequest "Invalid license." (some ("Failed to parse JWT claims: " ++ e)))
    | .ok claims => .ok claims

def unauthorizedMessage : String := "Missing or invalid session token."

def postLicense (fromSlice : PayloadFromSlice) (authenticated : Bool)
    (body : Except String String) : Calls LicenseCall CallReply (Except AppError Response) :=
  if authenticated then
    match body with
    | .error e => .done (.error (.badRequest ("Invalid request body: " ++ e) none))
    | .ok license =>
      if license.isEmpty then
        .done (.ok (.badRequest "License JWT must not be empty." "The license field is required."))
      else
        match license.splitOn "." with
        | [_, payload, _] =>
          match decodePayload fromSlice payload with
          | .error e => .done (.error e)
          | .ok claims =>
            .call (.insertLicense .app license claims) fun
              | .error e => .done (.error (.storage e))
              | .ok record => .done (.ok (.created record))
        | _ =>
          .done (.ok (.badRequest "Invalid license."
            "License JWT must have three dot-separated parts."))
  else .done (.ok (.unauthorized unauthorizedMessage))

def deleteLicenseHandler (authenticated : Bool) (licenseId : Int32) :
    Calls LicenseCall CallReply (Except AppError Response) :=
  if authenticated then
    .call (.deleteLicense .app licenseId) fun (deleted : Bool) =>
      if deleted then .done (.ok .ok)
      else
        .done (.ok (.notFound "Resource not found or you do not have access to this resource"))
  else .done (.ok (.unauthorized unauthorizedMessage))

/-! ## One deployment -/

inductive Request where
  | addLicense (rawJwt : String)
  | deleteLicense (id : Int32)
  | refreshEntitlements
  | postLicense (authenticated : Bool) (body : Except String String)
  | deleteLicenseHandler (authenticated : Bool) (licenseId : Int32)

inductive Result where
  | added (result : Except LicenseServiceError LicenseRecord)
  | deleted (result : Except LicenseServiceError Bool)
  | refreshed (result : Except LicenseServiceError Unit)
  | responded (result : Except AppError Response)

/-- All requests at one instant. Nothing else changes the table or the snapshot. -/
def deployment {DecodingKey Algorithm : Type} (validator : LicenseValidator DecodingKey Algorithm)
    (fromSlice : PayloadFromSlice) (now : OffsetDateTime) :
    Service LicenseCall CallReply Result World Drawn Request Empty where
  exec := World.exec
  enter
    | .addLicense rawJwt =>
      (LicenseService.addLicense validator now rawJwt).bind fun r => .done (.added r)
    | .deleteLicense id =>
      (LicenseService.deleteLicense validator now id).bind fun r => .done (.deleted r)
    | .refreshEntitlements =>
      (LicenseService.refreshEntitlements validator now).bind fun r => .done (.refreshed r)
    | .postLicense authenticated body =>
      (postLicense fromSlice authenticated body).bind fun r => .done (.responded r)
    | .deleteLicenseHandler authenticated licenseId =>
      (deleteLicenseHandler authenticated licenseId).bind fun r => .done (.responded r)
  outside _ event := nomatch event

end Coderd.License

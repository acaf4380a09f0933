import Coderd.Foundation.Calls
import Coderd.OAuth2.Schema

namespace Coderd.OAuth2

open Coderd.Foundation Coderd.Auth
open Coderd.CryptoKeys (OffsetDateTime)

/-! ## The store -/

/-- A store call that does not fail. It is `none` where the choice is not a possible one: the
clock does not go back, and neither ids nor the digests of drawn texts come twice. A row that a
foreign key does not allow, or a unique index, is an error. -/
def perform (call : Nat) (choice : Choice) (w : World) :
    (query : StoreCall) → Option (Except StorageError query.Response × World)
  | .createApp app =>
    (w.apps.create? choice.uuid app).map fun apps =>
      (.ok (choice.uuid, app), { w with apps := apps })
  | .findAppById id => some (.ok (w.apps.rows.lookup id), w)
  | .updateApp id name icon callbackUrl redirectUris =>
    let apps := w.apps.update id name icon callbackUrl redirectUris
    some (.ok (apps.rows.lookup id), { w with apps := apps })
  | .deleteApp id =>
    match w.apps.rows.lookup id with
    | none => some (.ok false, w)
    | some _ =>
      let w' :=
        { w with
          apps := w.apps.erase id
          approvals := w.approvals.retain fun key _ => key.1 ≠ id
          pendings := w.pendings.retain fun _ row => row.appId ≠ id
          codes := w.codes.retain fun _ code => code.appId ≠ id }
      some (.ok true, w'.cascade (w.secrets.retain fun _ secret => secret.appId ≠ id))
  | .hasUserApproval appId userId => some (.ok (w.approvals.lookup (appId, userId)).isSome, w)
  | .insertUserApproval appId userId scope =>
    match w.apps.rows.lookup appId with
    | none => some (.error .violatesConstraint, w)
    | some _ => some (.ok (), { w with approvals := w.approvals.insert (appId, userId) scope })
  | .insertPendingConsent row =>
    match w.apps.rows.lookup row.appId with
    | none => some (.error .violatesConstraint, w)
    | some _ =>
      (w.pendings.insert? choice.uuid row).map fun pendings =>
        (.ok choice.uuid, { w with pendings := pendings }.note (.consentIssued call choice.uuid))
  | .takePendingConsent nonce =>
    match w.pendings.rows.lookup nonce with
    | none => some (.ok none, w)
    | some row =>
      if choice.now < w.clock then none
      else
        let taken := if row.expiresAt > choice.now then some row else none
        let w' := { w with pendings := w.pendings.erase nonce, clock := choice.now }
        some (.ok taken, w'.note (.consentTaken call nonce choice.now))
  | .listSecrets appId =>
    -- the table has its newest row first, the query its oldest
    some (.ok (w.secrets.rows.selectAll fun _ secret => secret.appId = appId).reverse, w)
  | .createSecret secret =>
    match w.apps.rows.lookup secret.appId with
    | none => some (.error .violatesConstraint, w)
    | some _ =>
      match w.secrets.rows.selectFirst fun _ row => row.secretPrefix = secret.secretPrefix with
      | some _ => some (.error .violatesConstraint, w)
      | none =>
        (w.secrets.insert? choice.uuid secret).map fun secrets =>
          (.ok choice.uuid, { w with secrets := secrets })
  | .findSecretById id => some (.ok (w.secrets.rows.lookup id), w)
  | .deleteSecret id =>
    match w.secrets.rows.lookup id with
    | none => some (.ok false, w)
    | some _ => some (.ok true, w.cascade (w.secrets.erase id))
  | .createCode code =>
    match w.apps.rows.lookup code.appId with
    | none => some (.error .violatesConstraint, w)
    | some app =>
      match w.codes.issued.selectFirst fun _ row => row.hashedSecret = code.hashedSecret with
      | some _ => none
      | none =>
        let issued := { code with calls := w.calls, firstParty := app.firstParty }
        (w.codes.insert? choice.uuid issued).map fun codes => (.ok (), { w with codes := codes })
  | .findCodeByPrefix secretPrefix =>
    match w.codes.rows.selectAny choice.uuid fun _ code => code.secretPrefix = secretPrefix with
    | none => some (.ok none, w)
    | some (id, code) => some (.ok (some (id, code)), w.note (.codeFound call id))
  | .deleteCode id =>
    match w.codes.rows.lookup id with
    | none => some (.ok false, w)
    | some _ =>
      some (.ok true, { w with codes := w.codes.erase id }.note (.codeDeleted call id))
  | .createApiKey id key grant =>
    if w.violatesUnique id key then some (.ok false, w)
    else
      (w.apiKeys.insert? id { key with grant := grant }).map fun apiKeys =>
        (.ok true, { w with apiKeys := apiKeys }.note (.keyCreated call id))
  | .findApiKeyById id => some (.ok (w.apiKeys.rows.lookup id), w)
  | .deleteApiKey id =>
    match w.apiKeys.rows.lookup id with
    | none => some (.ok false, w)
    | some _ => some (.ok true, { w with apiKeys := w.apiKeys.erase id })
  | .createToken token grant =>
    match w.secrets.rows.lookup token.appSecretId with
    | none => some (.error .violatesConstraint, w)
    | some secret =>
      match w.tokens.issued.selectFirst fun _ row => row.refreshHash = token.refreshHash with
      | some _ => none
      | none =>
        let issued := { token with grant := grant, secret := secret }
        (w.tokens.insert? choice.uuid issued).map fun tokens =>
          (.ok (), { w with tokens := tokens }.note (.tokenCreated call choice.uuid))
  | .findTokenByPrefix hashPrefix =>
    some (.ok (w.tokens.rows.selectAny choice.uuid fun _ token => token.hashPrefix = hashPrefix), w)
  | .findTokenByRefreshHash refreshHash =>
    some
      (.ok (w.tokens.rows.selectAny choice.uuid fun _ token => token.refreshHash = refreshHash), w)
  | .deleteToken id =>
    match w.tokens.rows.lookup id with
    | none => some (.ok false, w)
    | some _ =>
      some (.ok true, { w with tokens := w.tokens.erase id }.note (.tokenDeleted call id))
  | .listTokensByAppAndUser appId userId =>
    let rows := w.tokens.rows.selectAll fun _ token => w.ofAppAndUser appId userId token
    some (.ok rows, w.note (.tokensListed call appId userId (rows.map (·.2.apiKeyId))))
  | .deleteTokensByAppAndUser appId userId =>
    let rows := w.tokens.rows.selectAll fun _ token => w.ofAppAndUser appId userId token
    some (.ok rows.length,
      { w with tokens := w.tokens.retain fun _ token => !w.ofAppAndUser appId userId token })

/-- A store call, which may fail without effect. -/
def query (call : Nat) (choice : Choice) (w : World) (query : StoreCall) :
    Option (Except StorageError query.Response × World) :=
  if choice.fails then some (.error .unavailable, w.note (.failed call query))
  else perform call choice w query

def exec : (op : Op) → World → Choice → Option (op.Response × World)
  | .begin request, w, choice =>
    if choice.now < w.clock then none
    else
      let w' := { w with clock := choice.now, calls := w.calls + 1 }
      some (w.calls, w'.note (.began w.calls request choice.now))
  | .finish call reply, w, _ => some ((), w.note (.finished call reply))
  | .nowUtc, w, choice =>
    if choice.now < w.clock then none else some (choice.now, { w with clock := choice.now })
  | .randomBytes, w, choice => some (choice.bytes, w)
  | .newUuid, w, choice => some (choice.uuid, w)
  | .store call q, w, choice => query call choice w q
  | .attempt call q, w, choice => (query call choice w q).map fun r => ((), r.2)

end Coderd.OAuth2

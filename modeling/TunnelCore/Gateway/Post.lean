import TunnelCore.Library.Json
import TunnelCore.Library.Text
import Mathlib.Data.List.Infix

namespace TunnelCore.Gateway

open Text

abbrev Bytes := List UInt8

inductive ErrorCode
  | noError
  | apiMissingAgwPublicKey
  | apiConfigDecryptionError
  | apiConfigSslError
  | apiConfigTimeoutError
  | apiUpdateRequestError
  | apiRateLimitError
  | apiTrialAlreadyUsedError
  | apiConfigLimitError
  | apiNotFoundError
  | apiSubscriptionExpiredError
  | apiConfigDownloadError
  | apiCaptchaRefreshError
  | apiCaptchaInvalidError
  | apiCaptchaRequiredError
  | apiSubscriptionNotActiveError
deriving DecidableEq

/-- `QNetworkReply::NetworkError`, with the values the code tells apart. -/
inductive NetworkError
  | noError
  | operationCanceledError
  | timeoutError
  | operationNotImplementedError
  | other (value : Nat)
deriving DecidableEq

structure SslError where
  errorString : String
deriving DecidableEq

/-- A finished reply, with the errors its `sslErrors` signal carried. -/
structure Reply where
  body : Bytes
  errorString : String
  error : NetworkError
  httpStatusCode : Int
  sslErrors : List SslError
deriving DecidableEq

/-- The functions of Qt and OpenSSL that the requests go through. -/
structure Qt where
  decryptAes256Cbc : Bytes → Bytes → Bytes → Bytes
  fromJson : Bytes → Option Json
  toCaseFolded : Char → Char

structure EncryptedRequestData where
  errorCode : ErrorCode
  key : Bytes
  iv : Bytes

structure DecryptionResult where
  decryptedBody : Bytes
  isDecryptionSuccessful : Bool
deriving DecidableEq

def errorResponsePattern1 : String := "No active configuration found for"
def errorResponsePattern2 : String := "No non-revoked public key found for"
def errorResponsePattern3 : String := "Account not found."
def errorResponsePatternQrSessionNotFound : String := "QR session not found"
def errorResponsePatternSessionNotFound : String := "Session not found"
def updateRequestResponsePattern : String := "client version update is required"
def unprocessableSubscriptionMessage : String :=
  "Failed to retrieve subscription information. Is it activated?"
def trialAlreadyUsedMessage : String := "trial subscription already used"

def latin1 (text : String) : Bytes := text.toList.map fun c => c.toNat.toUInt8

def contains (body : Bytes) (pattern : String) : Bool := decide (latin1 pattern <:+: body)

section

variable (qt : Qt)

/-- `QString::contains(.., Qt::CaseInsensitive)` -/
def mentions (message pattern : String) : Bool :=
  decide (pattern.toList.map qt.toCaseFolded <:+: message.toList.map qt.toCaseFolded)

def tryDecryptResponseBody (encryptedResponseBody key iv : Bytes) : DecryptionResult :=
  let decrypted := qt.decryptAes256Cbc encryptedResponseBody key iv
  if decrypted ≠ [] then ⟨decrypted, true⟩ else ⟨encryptedResponseBody, false⟩

def apiErrorMessageFromJson (jsonObj : JsonObject) : String := trimmed (jsonObj.value "message").toString

def shouldBypassProxy (replyError : NetworkError) (responseBody : Bytes) (isDecryptionSuccessful : Bool) : Bool :=
  let jsonObj := ((qt.fromJson responseBody).getD .null).toObject
  let apiHttpStatus := (jsonObj.value "http_status").toIntOr (-1)
  let apiErrorMessage := apiErrorMessageFromJson jsonObj
  if !isDecryptionSuccessful then true
  else if replyError = .operationCanceledError || replyError = .timeoutError then true
  else if contains responseBody "html" then true
  else if apiHttpStatus = 408 then false
  else if apiHttpStatus = 404 then
    !(contains responseBody errorResponsePattern1 || contains responseBody errorResponsePattern2 ||
      contains responseBody errorResponsePattern3 || contains responseBody errorResponsePatternQrSessionNotFound ||
      contains responseBody errorResponsePatternSessionNotFound)
  else if apiHttpStatus = 501 then !contains responseBody updateRequestResponsePattern
  else if apiHttpStatus = 409 then false
  else if apiHttpStatus = 402 then false
  else if apiHttpStatus = 422 then apiErrorMessage ≠ unprocessableSubscriptionMessage
  else replyError ≠ .noError

/-- The part of `checkNetworkReplyErrors` that looks at the status in the body; `none` goes on. -/
def bodyError (jsonObj : JsonObject) : Option ErrorCode :=
  let httpStatusFromBody := (jsonObj.value "http_status").toIntOr (-1)
  let message := apiErrorMessageFromJson jsonObj
  if httpStatusFromBody = 429 then some .apiRateLimitError
  else if httpStatusFromBody = 409 then
    some (if mentions qt message trialAlreadyUsedMessage then .apiTrialAlreadyUsedError else .apiConfigLimitError)
  else if httpStatusFromBody = 404 then some .apiNotFoundError
  else if httpStatusFromBody = 408 then some .apiConfigTimeoutError
  else if httpStatusFromBody = 501 then some .apiUpdateRequestError
  else if httpStatusFromBody = 422 then
    some (if message = unprocessableSubscriptionMessage then .apiSubscriptionExpiredError else .apiConfigDownloadError)
  else if httpStatusFromBody = 402 then
    if mentions qt message "refresh_captcha" then some .apiCaptchaRefreshError
    else if mentions qt message "invalid_captcha" then some .apiCaptchaInvalidError
    else if jsonObj.contains "captcha_id" || jsonObj.contains "captcha_image" ||
        mentions qt message "rate_limit_exceeded" then some .apiCaptchaRequiredError
    else some .apiSubscriptionNotActiveError
  else if 300 ≤ httpStatusFromBody then some .apiConfigDownloadError
  else none

/-- The source passes the reply's error string and HTTP status too, and reads neither. -/
def checkNetworkReplyErrors (sslErrors : List SslError) (replyError : NetworkError) (responseBody : Bytes) :
    ErrorCode :=
  if sslErrors ≠ [] then .apiConfigSslError
  else if replyError = .operationCanceledError || replyError = .timeoutError then .apiConfigTimeoutError
  else if replyError = .operationNotImplementedError then .apiUpdateRequestError
  else
    let fromBody :=
      match qt.fromJson responseBody with
      | some (.object jsonObj) => bodyError qt jsonObj
      | _ => none
    fromBody.getD (if replyError = .noError then .noError else .apiConfigDownloadError)

/-- The variables of `post` that the handler of a proxy's reply captures by reference. -/
structure Variables where
  replyErrorString : String
  replyError : NetworkError
  httpStatusCode : Int
  decryptionResult : DecryptionResult
  sslErrors : List SslError
deriving DecidableEq

variable (enc : EncryptedRequestData)

def readReply (reply : Reply) (sslErrors : List SslError) : Variables where
  replyErrorString := reply.errorString
  replyError := reply.error
  httpStatusCode := reply.httpStatusCode
  decryptionResult := tryDecryptResponseBody qt reply.body enc.key enc.iv
  sslErrors := sslErrors

def callsForBypass (v : Variables) : Bool :=
  shouldBypassProxy qt v.replyError v.decryptionResult.decryptedBody v.decryptionResult.isDecryptionSuccessful

/-- `replyProcessingFunction`: the reply's own SSL errors are kept for the next reply, not looked at. -/
def processReply (v : Variables) (reply : Reply) : Bool × Variables :=
  let w := readReply qt enc reply v.sslErrors
  if v.sslErrors ≠ [] || callsForBypass qt w then (false, { w with sslErrors := reply.sslErrors }) else (true, w)

/-- What the network answers: to a request sent to the gateway, to the health check of a proxy and to the
request sent there. `proxyUrls` are the ones found, as shuffled. -/
structure Network where
  gateway : Reply
  proxyUrls : List String
  healthy : String → Bool
  proxy : String → Reply

variable (net : Network)

/-- The reply to the first request: `prepareRequest` sends it to the remembered proxy, if there is one. -/
def Network.direct (proxyUrl : String) : Reply := if proxyUrl = "" then net.gateway else net.proxy proxyUrl

def tryProxies (v : Variables) : List String → Variables × Option String
  | [] => (v, none)
  | proxyUrl :: proxyUrls =>
    match processReply qt enc v (net.proxy proxyUrl) with
    | (true, v) => (v, some proxyUrl)
    | (false, v) => tryProxies v proxyUrls

/-- The proxy to try first: the one in use, or else the first that passes its health check. -/
def preferredProxy (proxyUrl : String) : String :=
  if proxyUrl = "" then (net.proxyUrls.find? fun url => net.healthy url && url ≠ "").getD "" else proxyUrl

/-- `bypassProxy`, with `m_proxyUrl` as it leaves it. -/
def bypassProxy (v : Variables) (proxyUrl : String) : Variables × String :=
  let proxyUrl := preferredProxy net proxyUrl
  let loop (v : Variables) : Variables × String :=
    let (v, found) := tryProxies qt enc net v net.proxyUrls
    (v, found.getD proxyUrl)
  if proxyUrl ≠ "" then
    match processReply qt enc v (net.proxy proxyUrl) with
    | (true, v) => (v, proxyUrl)
    | (false, v) => loop v
  else loop v

def outcome (v : Variables) : ErrorCode × Bytes :=
  let responseBody := v.decryptionResult.decryptedBody
  let errorCode := checkNetworkReplyErrors qt v.sslErrors v.replyError responseBody
  if errorCode ≠ .noError then (errorCode, responseBody)
  else if !v.decryptionResult.isDecryptionSuccessful then (.apiConfigDecryptionError, responseBody)
  else (.noError, responseBody)

/-- `post`: the error code, `responseBody` and `m_proxyUrl` afterwards. -/
def post (proxyUrl : String) (responseBody : Bytes) : (ErrorCode × Bytes) × String :=
  if enc.errorCode ≠ .noError then ((enc.errorCode, responseBody), proxyUrl)
  else
    let v := readReply qt enc (net.direct proxyUrl) (net.direct proxyUrl).sslErrors
    if v.sslErrors = [] && callsForBypass qt v then
      let (v, proxyUrl) := bypassProxy qt enc net v proxyUrl
      (outcome qt v, proxyUrl)
    else (outcome qt v, proxyUrl)

def tried (proxyUrl : String) : List String :=
  if preferredProxy net proxyUrl ≠ "" then preferredProxy net proxyUrl :: net.proxyUrls else net.proxyUrls

def Reply.callsForBypass (reply : Reply) : Bool := Gateway.callsForBypass qt (readReply qt enc reply reply.sslErrors)

def Acceptable (reply : Reply) : Prop := reply.sslErrors = [] ∧ reply.callsForBypass qt enc = false

def Reply.outcome (reply : Reply) : ErrorCode × Bytes := Gateway.outcome qt (readReply qt enc reply reply.sslErrors)

def settle (v : Variables) : List Reply → Variables
  | [] => v
  | reply :: replies =>
    if v.sslErrors ≠ [] || reply.callsForBypass qt enc then settle (readReply qt enc reply reply.sslErrors) replies
    else readReply qt enc reply v.sslErrors

/-- Each reply calls for bypass or comes right after SSL errors. -/
def PassedOver (sslErrors : List SslError) : List Reply → Prop
  | [] => True
  | reply :: replies =>
    (sslErrors ≠ [] ∨ reply.callsForBypass qt enc = true) ∧ PassedOver reply.sslErrors replies

/-- The SSL errors that the next reply is judged by. -/
def carried (before : List Reply) : List SslError := (before.getLast?.map Reply.sslErrors).getD []

/-- `reply` is judged final, or no other is left to ask. -/
def StopsAt (before : List Reply) (reply : Reply) (after : List Reply) : Prop :=
  PassedOver qt enc [] before ∧ (carried before = [] ∧ reply.callsForBypass qt enc = false ∨ after = [])

/-- What is made of the reply at which `post` stops. -/
def stoppedOutcome (before : List Reply) (reply : Reply) : ErrorCode × Bytes :=
  let judged := carried before = [] ∧ reply.callsForBypass qt enc = false
  Gateway.outcome qt (readReply qt enc reply (if judged then [] else reply.sslErrors))

end

section

variable {qt : Qt} {enc : EncryptedRequestData} {net : Network}

theorem processReply_eq (v : Variables) (reply : Reply) :
    processReply qt enc v reply =
      if v.sslErrors ≠ [] || reply.callsForBypass qt enc then (false, readReply qt enc reply reply.sslErrors)
      else (true, readReply qt enc reply v.sslErrors) := rfl

theorem tryProxies_eq_settle (v : Variables) (proxyUrls : List String) :
    (tryProxies qt enc net v proxyUrls).1 = settle qt enc v (proxyUrls.map net.proxy) := by
  induction proxyUrls generalizing v with
  | nil => rfl
  | cons proxyUrl proxyUrls ih =>
    rw [tryProxies, processReply_eq, List.map_cons, settle]
    by_cases h : (v.sslErrors ≠ [] || (net.proxy proxyUrl).callsForBypass qt enc) = true
    · rw [if_pos h, if_pos h]
      exact ih _
    · rw [if_neg h, if_neg h]

theorem bypassProxy_eq_settle (v : Variables) (proxyUrl : String) :
    (bypassProxy qt enc net v proxyUrl).1 = settle qt enc v ((tried net proxyUrl).map net.proxy) := by
  rw [bypassProxy, tried]
  split
  · rw [processReply_eq, List.map_cons, settle]
    by_cases h : (v.sslErrors ≠ [] || (net.proxy (preferredProxy net proxyUrl)).callsForBypass qt enc) = true
    · rw [if_pos h, if_pos h]
      exact tryProxies_eq_settle _ _
    · rw [if_neg h, if_neg h]
  · exact tryProxies_eq_settle v _

theorem settle_passedOver {v : Variables} {before : List Reply} (rest : List Reply)
    (h : PassedOver qt enc v.sslErrors before) :
    ∃ w, settle qt enc v (before ++ rest) = settle qt enc w rest ∧
      w.sslErrors = (before.getLast?.map Reply.sslErrors).getD v.sslErrors := by
  induction before generalizing v with
  | nil => exact ⟨v, rfl, rfl⟩
  | cons r before ih =>
    obtain ⟨w, hw, hssl⟩ := ih (v := readReply qt enc r r.sslErrors) h.2
    refine ⟨w, ?_, ?_⟩
    · rw [List.cons_append, settle, if_pos (by simpa using h.1), hw]
    · rw [hssl]
      cases before with
      | nil => rfl
      | cons r' before => rw [List.getLast?_cons_cons, List.getLast?_eq_some_getLast (List.cons_ne_nil r' before)]; rfl

theorem outcome_settle {v : Variables} (hv : v.sslErrors = []) {before after : List Reply} {reply : Reply}
    (h : StopsAt qt enc before reply after) :
    outcome qt (settle qt enc v (before ++ reply :: after)) = stoppedOutcome qt enc before reply := by
  obtain ⟨w, hw, hssl⟩ := settle_passedOver (v := v) (reply :: after) (by rw [hv]; exact h.1)
  have hcarried : w.sslErrors = carried before := by rw [hssl, hv, carried]
  rw [hw, settle, stoppedOutcome, hcarried]
  by_cases hjudged : carried before = [] ∧ reply.callsForBypass qt enc = false
  · simp only [hjudged.1, hjudged.2, ne_eq, not_true, decide_false, Bool.or_false, Bool.false_eq_true, if_false, and_self,
      if_true]
  · have hpassed : (decide (carried before ≠ []) || reply.callsForBypass qt enc) = true := by
      rw [Bool.or_eq_true, decide_eq_true_iff]
      exact (Classical.not_and_iff_not_or_not.mp hjudged).imp_right (Bool.not_eq_false _).mp
    rw [if_pos hpassed, if_neg hjudged, h.2.resolve_left hjudged, settle]

theorem passedOver_concat {sslErrors : List SslError} {before : List Reply} {reply : Reply}
    (h : PassedOver qt enc sslErrors before)
    (hreply : (before.getLast?.map Reply.sslErrors).getD sslErrors ≠ [] ∨ reply.callsForBypass qt enc = true) :
    PassedOver qt enc sslErrors (before ++ [reply]) := by
  induction before generalizing sslErrors with
  | nil => exact ⟨hreply, trivial⟩
  | cons r before ih =>
    refine ⟨h.1, ih h.2 ?_⟩
    cases before with
    | nil => exact hreply
    | cons r' before =>
      rw [List.getLast?_cons_cons, List.getLast?_eq_some_getLast (List.cons_ne_nil r' before)] at hreply
      rwa [List.getLast?_eq_some_getLast (List.cons_ne_nil r' before)]

theorem exists_stopsAt {before replies : List Reply} (h : PassedOver qt enc [] before) (hne : replies ≠ []) :
    ∃ before' reply after, before ++ replies = before' ++ reply :: after ∧ StopsAt qt enc before' reply after := by
  induction replies generalizing before with
  | nil => exact absurd rfl hne
  | cons r replies ih =>
    by_cases hstop : carried before = [] ∧ r.callsForBypass qt enc = false ∨ replies = []
    · exact ⟨before, r, replies, rfl, h, hstop⟩
    · obtain ⟨hjudged, hrest⟩ := not_or.mp hstop
      have hpassed := passedOver_concat h
        ((Classical.not_and_iff_not_or_not.mp hjudged).imp_right (Bool.not_eq_false _).mp)
      obtain ⟨before', reply, after, heq, hstops⟩ := ih hpassed hrest
      exact ⟨before', reply, after, by rw [← heq, List.append_assoc, List.singleton_append], hstops⟩

theorem post_eq_settle (henc : enc.errorCode = .noError) {proxyUrl : String} {responseBody : Bytes}
    (hssl : (net.direct proxyUrl).sslErrors = []) (hdirect : (net.direct proxyUrl).callsForBypass qt enc = true) :
    (post qt enc net proxyUrl responseBody).1 =
      outcome qt (settle qt enc (readReply qt enc (net.direct proxyUrl) (net.direct proxyUrl).sslErrors)
        ((tried net proxyUrl).map net.proxy)) := by
  have hbypass : (decide ((net.direct proxyUrl).sslErrors = []) && (net.direct proxyUrl).callsForBypass qt enc) =
      true := by
    rw [hdirect, hssl]
    rfl
  rw [post, if_neg (not_not_intro henc), ← bypassProxy_eq_settle]
  exact congrArg Prod.fst (if_pos hbypass)

/-- An acceptable reply, the first one in particular, is what comes out exactly if `post` stops at it, or stops at another
reply that it makes the same of. -/
theorem post_eq_first_acceptable_iff (qt : Qt) (enc : EncryptedRequestData) (henc : enc.errorCode = .noError)
    (net : Network) (proxyUrl : String) (responseBody : Bytes) (hssl : (net.direct proxyUrl).sslErrors = [])
    (hdirect : (net.direct proxyUrl).callsForBypass qt enc = true) (before after : List Reply) (reply : Reply)
    (htried : (tried net proxyUrl).map net.proxy = before ++ reply :: after) (hreply : Acceptable qt enc reply) :
    ((post qt enc net proxyUrl responseBody).1 = reply.outcome qt enc ↔
      StopsAt qt enc before reply after ∨
        ∃ before' other after', before'.length ≠ before.length ∧
          before' ++ other :: after' = before ++ reply :: after ∧ StopsAt qt enc before' other after' ∧
          stoppedOutcome qt enc before' other = reply.outcome qt enc) ∧
    (StopsAt qt enc before reply after ↔ PassedOver qt enc [] before ∧ (carried before = [] ∨ after = [])) := by
  have hown : stoppedOutcome qt enc before reply = reply.outcome qt enc := by
    rw [stoppedOutcome, Reply.outcome, hreply.1, ite_self]
  rw [post_eq_settle henc hssl hdirect, htried]
  refine ⟨⟨fun h => ?_, ?_⟩, by rw [StopsAt, and_iff_left hreply.2]⟩
  · obtain ⟨before', other, after', heq, hstops⟩ :=
      exists_stopsAt (show PassedOver qt enc [] [] from trivial) (show before ++ reply :: after ≠ [] by simp)
    rw [List.nil_append] at heq
    by_cases hlen : before'.length = before.length
    · obtain ⟨rfl, hrest⟩ := List.append_inj heq hlen.symm
      obtain ⟨rfl, rfl⟩ := List.cons_eq_cons.mp hrest
      exact .inl hstops
    · refine .inr ⟨before', other, after', hlen, heq.symm, hstops, ?_⟩
      rw [← h, heq, outcome_settle hssl hstops]
  · rintro (hstops | ⟨before', other, after', -, heq, hstops, hsame⟩)
    · rw [outcome_settle hssl hstops, hown]
    · rw [← heq, outcome_settle hssl hstops, hsame]

end

section Samples

def plainQt : Qt := ⟨fun body _ _ => body, fun _ => none, id⟩

def plainRequest : EncryptedRequestData := ⟨.noError, [], []⟩

def timedOut : Reply := ⟨[], "timeout", .timeoutError, 0, []⟩

def untrusted : Reply := ⟨[], "SSL handshake failed", .other 6, 0, [⟨"The certificate is self-signed"⟩]⟩

def working : Reply := ⟨latin1 "ok", "", .noError, 200, []⟩

def intercepted : Reply := { untrusted with body := latin1 "forged", error := .noError, httpStatusCode := 200 }

def sampleNet (replies : List (String × Reply)) : Network where
  gateway := timedOut
  proxyUrls := replies.map Prod.fst
  healthy _ := false
  proxy url := (replies.lookup url).getD timedOut

/-- The second proxy is passed over because of the first one's SSL errors, and would be anyway. -/
theorem post_eq_first_acceptable_third :
    (post plainQt plainRequest (sampleNet [("a", untrusted), ("b", timedOut), ("c", working), ("d", untrusted)]) ""
      []).1 = (.noError, latin1 "ok") := by
  have h := post_eq_first_acceptable_iff plainQt plainRequest rfl
    (sampleNet [("a", untrusted), ("b", timedOut), ("c", working), ("d", untrusted)]) "" [] rfl (by decide +kernel)
    [untrusted, timedOut] [untrusted] working (by decide +kernel) ⟨rfl, by decide +kernel⟩
  exact h.1.mpr (.inl (h.2.mpr ⟨⟨.inr (by decide +kernel), .inr (by decide +kernel), trivial⟩, .inl rfl⟩))

/-- After the proxy whose certificate fails, the working one is passed over, and the answer of the
last one is returned; and a reply is accepted whose own SSL errors are not looked at. -/
theorem working_proxy_passed_over :
    Acceptable plainQt plainRequest working ∧ working.outcome plainQt plainRequest = (.noError, latin1 "ok") ∧
    ¬Acceptable plainQt plainRequest untrusted ∧ ¬Acceptable plainQt plainRequest intercepted ∧
    (post plainQt plainRequest (sampleNet [("a", untrusted), ("b", working), ("c", timedOut)]) "" []).1 =
      (.apiConfigTimeoutError, []) ∧
    (post plainQt plainRequest (sampleNet [("a", intercepted), ("b", working)]) "" []).1 =
      (.noError, latin1 "forged") := by
  unfold Acceptable
  decide +kernel

end Samples

end TunnelCore.Gateway

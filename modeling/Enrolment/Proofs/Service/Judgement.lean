import Enrolment.Service.Http
import Mathlib
/-!
What calls of the account service come to. However the network answers, each call sends one request and is
judged by the answer to it alone, and the client knows that its build is no longer accepted from the first
answer on that said so. Main result: `calls_judged`.
-/
namespace Enrolment.Service

namespace HttpResponse

def text (response : HttpResponse) : String := Text.ofUtf8Lossy response.body

def told? (response : HttpResponse) : Option Failure := (Json.document? response.text).bind Failure.ofJson?

def Succeeds (response : HttpResponse) : Prop := 200 ≤ response.status ∧ response.status < 300

/-- An answer that is neither a success nor the one for builds that are no longer accepted. -/
structure Refuses (response : HttpResponse) : Prop where
  other : response.status ≠ 499
  unsuccessful : ¬ response.Succeeds

/-- An answer that tells of no failure and has no words either. -/
structure Blank (response : HttpResponse) : Prop where
  untold : response.told? = none
  blank : ∀ c ∈ response.text.toList, Text.isBlank c = true

end HttpResponse

/-- How a call to a path fails by what the network answers. -/
inductive Fails (path : String) : Except String HttpResponse → NetworkError → Prop
  | unanswered (detail : String) : Fails path (.error detail) (.transport path detail)
  | deprecated {response : HttpResponse} (status : response.status = 499) : Fails path (.ok response) .deprecated
  | told {response : HttpResponse} (refuses : response.Refuses) {failure : Failure} (told : response.told? = some failure) :
    Fails path (.ok response) (.rejected path response.status failure)
  | worded {response : HttpResponse} (refuses : response.Refuses) (untold : response.told? = none) {c : Char}
    (there : c ∈ response.text.toList) (visible : Text.isBlank c = false) :
    Fails path (.ok response) (.rejected path response.status ⟨.ofStatus response.status, response.text⟩)
  | blank {response : HttpResponse} (refuses : response.Refuses) (blank : response.Blank) {phrase : String}
    (known : reasonPhrases.lookup response.status = some phrase) :
    Fails path (.ok response) (.rejected path response.status ⟨.ofStatus response.status, phrase⟩)
  | unknown {response : HttpResponse} (refuses : response.Refuses) (blank : response.Blank)
    (unknown : reasonPhrases.lookup response.status = none) :
    Fails path (.ok response) (.rejected path response.status ⟨.ofStatus response.status, "request failed"⟩)

def Request.path : Request → String
  | .verify _ _ => "/v1/registration"
  | .publish _ _ _ => "/v2/keys"

/-- What a call comes to by what the network answers. -/
inductive Verdict : (request : Request) → Except String HttpResponse → Except NetworkError request.Result → Prop
  | failed {request : Request} {answer : Except String HttpResponse} {e : NetworkError} (fails : Fails request.path answer e) :
    Verdict request answer (.error e)
  | verified {request : VerifyRequest} {credentials : Credentials} {response : HttpResponse} (succeeds : response.Succeeds)
    {verified : VerifyResponse} (read : verifyResponse? response.body = some verified) :
    Verdict (.verify request credentials) (.ok response) (.ok verified)
  | unreadable {request : VerifyRequest} {credentials : Credentials} {response : HttpResponse} (succeeds : response.Succeeds)
    (unread : verifyResponse? response.body = none) :
    Verdict (.verify request credentials) (.ok response)
      (.error (.transport "/v1/registration" "error decoding response body"))
  | published {space : Namespace} {upload : PreKeyUpload} {credentials : Credentials} {response : HttpResponse}
    (succeeds : response.Succeeds) : Verdict (.publish space upload credentials) (.ok response) (.ok ())

/-! ## Answers -/

variable {response : HttpResponse}

theorem failureOf_of_told {failure : Failure} (told : response.told? = some failure) : failureOf response = failure := by
  have read : (Json.document? (Text.ofUtf8Lossy response.body)).bind Failure.ofJson? = some failure := told
  simp only [failureOf, read]

theorem failureOf_of_untold (untold : response.told? = none) :
    failureOf response =
      ⟨.ofStatus response.status, if Text.allBlank response.text then reasonPhrase response.status else response.text⟩ := by
  have unread : (Json.document? (Text.ofUtf8Lossy response.body)).bind Failure.ofJson? = none := untold
  simp only [failureOf, unread]
  rfl

theorem fails_of_refuses (path : String) (refuses : response.Refuses) :
    Fails path (.ok response) (.rejected path response.status (failureOf response)) := by
  cases told : response.told? with
  | some failure =>
    rw [failureOf_of_told told]
    exact .told refuses told
  | none =>
    rw [failureOf_of_untold told]
    cases blank : Text.allBlank response.text with
    | true =>
      have blank : response.Blank := ⟨told, List.all_eq_true.1 blank⟩
      cases known : reasonPhrases.lookup response.status with
      | some phrase =>
        simp only [reasonPhrase, known, if_true, Option.getD_some]
        exact .blank refuses blank known
      | none =>
        simp only [reasonPhrase, known, if_true, Option.getD_none]
        exact .unknown refuses blank known
    | false =>
      obtain ⟨c, there, visible⟩ := List.all_eq_false.1 blank
      exact .worded refuses told there (by simpa using visible)

def judged (path : String) (answer : Except String HttpResponse) : Except NetworkError Bytes :=
  (answer.mapError (.transport path)).bind (judge path)

theorem judged_cases (path : String) (answer : Except String HttpResponse) :
    (∃ e, judged path answer = .error e ∧ Fails path answer e) ∨
      ∃ response, answer = .ok response ∧ response.Succeeds ∧ judged path answer = .ok response.body := by
  cases answer with
  | error detail => exact .inl ⟨_, rfl, .unanswered detail⟩
  | ok response =>
    change (∃ e, judge path response = .error e ∧ _) ∨ ∃ _, _ ∧ _ ∧ judge path response = _
    unfold judge deprecatedStatus
    split
    · exact .inl ⟨_, rfl, .deprecated ‹_›⟩
    · rename_i other
      by_cases succeeds : 200 ≤ response.status ∧ response.status < 300
      · exact .inr ⟨response, rfl, succeeds, if_pos (by simpa [isSuccess] using succeeds)⟩
      · exact .inl ⟨_, if_neg (by simpa [isSuccess] using succeeds), fails_of_refuses path ⟨other, succeeds⟩⟩

def tellsDeprecated : Except String HttpResponse → Bool
  | .ok response => response.status = 499
  | .error _ => false

def Request.message (request : Request) (url : Url) : HttpRequest :=
  let authorization (credentials : Credentials) :=
    "Basic " ++ Text.base64 (Text.utf8 (credentials.username ++ ":" ++ credentials.password))
  match request with
  | .verify request credentials => ⟨"POST", url, [], authorization credentials, request.toJson⟩
  | .publish space upload credentials => ⟨"PUT", url, [("identity", space.name)], authorization credentials, upload.toJson⟩

theorem Request.url_message (request : Request) (url : Url) : (request.message url).url = url := by cases request <;> rfl

namespace HttpClient

variable {ε : Type} (exchange : Exchange ε) {c : HttpClient ε} {url : Url}

/-! ## One call -/

theorem send_eq {path : String} (address : c.base.resolve path = .ok url) (method : String)
    (query : List (String × String)) (credentials : Credentials) (body : Json) :
    let sent : HttpRequest := ⟨method, url, query,
      "Basic " ++ Text.base64 (Text.utf8 (credentials.username ++ ":" ++ credentials.password)), body⟩
    c.send exchange method path query credentials body =
      (judged path (exchange sent c.network).1,
        ⟨c.base, c.deprecated || tellsDeprecated (exchange sent c.network).1, (exchange sent c.network).2⟩) := by
  simp only [send, address]
  generalize exchange _ c.network = answered
  obtain ⟨detail | response, network⟩ := answered
  · simp [judged, tellsDeprecated, Except.mapError, Except.bind]
  · rfl

variable {request : Request}

theorem service_judged (address : c.base.resolve request.path = .ok url) :
    Verdict request (exchange (request.message url) c.network).1 (service exchange request c).1 ∧
      (service exchange request c).2 =
        ⟨c.base, c.deprecated || tellsDeprecated (exchange (request.message url) c.network).1,
          (exchange (request.message url) c.network).2⟩ := by
  cases request with
  | verify request credentials =>
    simp only [service, send_eq exchange (show c.base.resolve "/v1/registration" = .ok url from address), Request.message]
    generalize exchange _ c.network = answered
    obtain ⟨e, came, fails⟩ | ⟨response, answer, succeeds, came⟩ := judged_cases "/v1/registration" answered.1
    · rw [came]
      exact ⟨.failed fails, rfl⟩
    · rw [came, answer]
      cases read : verifyResponse? response.body with
      | some verified =>
        simp only [read, and_true]
        exact .verified succeeds read
      | none =>
        simp only [read, and_true]
        exact .unreadable succeeds read
  | publish space upload credentials =>
    simp only [service, send_eq exchange (show c.base.resolve "/v2/keys" = .ok url from address), Request.message]
    generalize exchange _ c.network = answered
    obtain ⟨e, came, fails⟩ | ⟨response, answer, succeeds, came⟩ := judged_cases "/v2/keys" answered.1
    · rw [came]
      exact ⟨.failed fails, rfl⟩
    · rw [came, answer]
      exact ⟨.published succeeds, rfl⟩

end HttpClient

/-! ## Call after call -/

abbrev Traffic := List (HttpRequest × Except String HttpResponse)

/-- One call: what it sent and was answered, what it came to, and whether the client then holds its build for
no longer accepted. -/
structure Deal where
  request : Request
  traffic : Traffic
  result : Except NetworkError request.Result
  deprecated : Bool

namespace Deal

def TellsDeprecated (deal : Deal) : Prop :=
  ∃ sent response, (sent, .ok response) ∈ deal.traffic ∧ response.status = 499

/-- The call sent one request, to its own address, and is judged by the answer to it. -/
def Judged (base : Url) (deal : Deal) : Prop :=
  ∃ sent answer, deal.traffic = [(sent, answer)] ∧ base.resolve deal.request.path = .ok sent.url ∧
    Verdict deal.request answer deal.result

end Deal

namespace HttpClient

variable {ε : Type} (exchange : Exchange ε)

def noting : Exchange (ε × Traffic) := fun request (network, past) =>
  ((exchange request network).1, ((exchange request network).2, past ++ [(request, (exchange request network).1)]))

def deal (c : HttpClient ε) (request : Request) : Deal × HttpClient ε :=
  let traffic := (service (noting exchange) request ⟨c.base, c.deprecated, (c.network, [])⟩).2.network.2
  let (result, c) := service exchange request c
  (⟨request, traffic, result, c.deprecated⟩, c)

def deals : HttpClient ε → List Request → List Deal
  | _, [] => []
  | c, request :: requests => (c.deal exchange request).1 :: deals (c.deal exchange request).2 requests

variable {c : HttpClient ε} {request : Request} {url : Url}

theorem traffic_deal (address : c.base.resolve request.path = .ok url) :
    (c.deal exchange request).1.traffic = [(request.message url, (exchange (request.message url) c.network).1)] := by
  have noted : (⟨c.base, c.deprecated, (c.network, [])⟩ : HttpClient (ε × Traffic)).base.resolve request.path = .ok url :=
    address
  simp only [deal, (service_judged (noting exchange) noted).2]
  rfl

theorem tellsDeprecated_deal (address : c.base.resolve request.path = .ok url) :
    (c.deal exchange request).1.TellsDeprecated ↔
      tellsDeprecated (exchange (request.message url) c.network).1 = true := by
  rw [Deal.TellsDeprecated, traffic_deal exchange address]
  cases (exchange (request.message url) c.network).1 with
  | error detail => simp [tellsDeprecated]
  | ok response =>
    simp only [List.mem_singleton, Prod.mk.injEq, Except.ok.injEq, tellsDeprecated, decide_eq_true_eq]
    constructor
    · rintro ⟨_, _, ⟨rfl, rfl⟩, status⟩
      exact status
    · intro status
      exact ⟨_, _, ⟨rfl, rfl⟩, status⟩

theorem judged_deal (address : c.base.resolve request.path = .ok url) :
    (c.deal exchange request).1.Judged c.base := by
  have sent : c.base.resolve request.path = .ok (request.message url).url := by rw [request.url_message, address]
  exact ⟨_, _, traffic_deal exchange address, sent, (service_judged exchange address).1⟩

theorem base_deal (address : c.base.resolve request.path = .ok url) : (c.deal exchange request).2.base = c.base := by
  have after : (c.deal exchange request).2 = _ := (service_judged exchange address).2
  rw [after]

theorem deprecated_deal (address : c.base.resolve request.path = .ok url) :
    (c.deal exchange request).1.deprecated = true ↔
      c.deprecated = true ∨ (c.deal exchange request).1.TellsDeprecated := by
  have flag : (c.deal exchange request).1.deprecated =
      (c.deprecated || tellsDeprecated (exchange (request.message url) c.network).1) :=
    congrArg HttpClient.deprecated (service_judged exchange address).2
  rw [flag, Bool.or_eq_true, tellsDeprecated_deal exchange address]

theorem request_deals (requests : List Request) : (c.deals exchange requests).map (·.request) = requests := by
  induction requests generalizing c with
  | nil => rfl
  | cons request requests ih => simp only [deals, List.map_cons, ih, deal]

/-- The base stays through all calls, so that each is judged as the first one is; what the client holds of its
build gathers what all calls so far were told. -/
theorem deals_judged {base : Url} (accepts : ∀ request : Request, ∃ url, base.resolve request.path = .ok url)
    {requests : List Request} {before : List Deal} {deal : Deal} {after : List Deal} (same : c.base = base)
    (made : c.deals exchange requests = before ++ deal :: after) :
    deal.Judged base ∧
      (deal.deprecated = true ↔ c.deprecated = true ∨ ∃ earlier ∈ before ++ [deal], earlier.TellsDeprecated) := by
  induction requests generalizing c before with
  | nil => simp [deals] at made
  | cons request requests ih =>
    subst same
    obtain ⟨url, address⟩ := accepts request
    rw [deals] at made
    cases before with
    | nil =>
      obtain ⟨rfl, -⟩ := List.cons.inj made
      exact ⟨judged_deal exchange address, by simpa using deprecated_deal exchange address⟩
    | cons first before =>
      obtain ⟨rfl, rest⟩ := List.cons.inj made
      obtain ⟨judged, flag⟩ := ih (base_deal exchange address) rest
      apply And.intro judged
      have passed : (c.deal exchange request).2.deprecated = (c.deal exchange request).1.deprecated := rfl
      rw [flag, passed, deprecated_deal exchange address]
      simp only [List.cons_append, List.mem_cons, exists_eq_or_imp, or_assoc]

end HttpClient

/-- Let a client be set up, for a server at which both calls have an address. Each of its calls, in whatever
order they come and however the network answers, sends one request to the address of the call and is judged by
the answer to that request; and after it the client holds its build for no longer accepted just if the answer
to this call or to one before it has told so. -/
theorem calls_judged {ε : Type} (exchange : Exchange ε) {serverUrl : String} {network : ε} {c : HttpClient ε}
    (setUp : HttpClient.new serverUrl network = .ok c)
    (accepts : ∀ request : Request, ∃ url, c.base.resolve request.path = .ok url) (requests : List Request) :
    c.deprecated = false ∧ (c.deals exchange requests).map (·.request) = requests ∧
      ∀ before deal after, c.deals exchange requests = before ++ deal :: after →
        deal.Judged c.base ∧ (deal.deprecated = true ↔ ∃ earlier ∈ before ++ [deal], earlier.TellsDeprecated) := by
  have fresh : c.deprecated = false := by
    unfold HttpClient.new at setUp
    split at setUp
    · obtain rfl := Except.ok.inj setUp
      rfl
    · cases setUp
  refine ⟨fresh, HttpClient.request_deals exchange requests, ?_⟩
  intro before deal after made
  simpa [fresh] using HttpClient.deals_judged exchange accepts rfl made

/-- A network that brings given answers, and then none. -/
def scripted : Exchange (List (Except String HttpResponse)) := fun _ answers =>
  match answers with
  | [] => (.error "connection refused", [])
  | answer :: answers => (answer, answers)

private def late : HttpClient (List (Except String HttpResponse)) :=
  ⟨⟨"http", some (.ofHost "[::1]"), false, "/"⟩, false,
    [.ok ⟨403, Text.utf8 "[\"forbidden\"]"⟩, .ok ⟨499, Text.utf8 "\x7b\x7d"⟩, .ok ⟨204, []⟩]⟩

private def lastCalls : List Request :=
  [.verify default ⟨"ada", "secret"⟩, .publish .aci default ⟨"ada", "secret"⟩, .publish .pni default ⟨"ada", "secret"⟩,
    .publish .pni default ⟨"ada", "secret"⟩]

/-- A build that is turned down in the second call stays so when the third one succeeds and the fourth one is
not answered. -/
theorem calls_judged_when_late :
    HttpClient.new "http://[::1]" late.network = .ok late ∧
      (late.deals scripted lastCalls).map (·.deprecated) = [false, true, true, true] ∧
      ∀ deal ∈ late.deals scripted lastCalls, deal.Judged late.base := by
  have setUp : HttpClient.new "http://[::1]" late.network = .ok late := by cbv
  have accepts (request : Request) : ∃ url, late.base.resolve request.path = .ok url := by
    cases request with
    | verify => exact ⟨⟨"http", some (.ofHost "[::1]"), false, "/v1/registration"⟩, by cbv⟩
    | publish => exact ⟨⟨"http", some (.ofHost "[::1]"), false, "/v2/keys"⟩, by cbv⟩
  obtain ⟨-, -, each⟩ := calls_judged scripted setUp accepts lastCalls
  refine ⟨setUp, by decide +kernel, ?_⟩
  intro deal member
  obtain ⟨before, after, made⟩ := List.append_of_mem member
  exact (each before deal after made).1

end Enrolment.Service

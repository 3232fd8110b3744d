import ChatRelay.Completion.EndpointError
import ChatRelay.Generation.Classify
import ChatRelay.Proofs.Text.LowerCase
import ChatRelay.Proofs.Text.Search

/-!
# What a failure is taken for

A failure is looked at twice. What an endpoint reports is told apart by its code, its
type and two phrases (`EndpointError.cause`), and words of the message count for
nothing if the code or the type says what happened. Only a failure that is of no
particular kind after that is searched for words, in letters of any case: those of a
refused credential come before those of a limited rate, and these before those of a
quota (`failure_codes`).
-/

namespace ChatRelay.Completion

namespace EndpointError

/-- By its code, its type or a phrase, the endpoint does not accept the credential. -/
def RefusesCredential (e : EndpointError) : Prop :=
  e.code = some "invalid_api_key" ∨ e.code = some "authentication_error" ∨
    e.type = some "authentication_error" ∨ "Incorrect API key".toList <:+: e.message.toList ∨
    "Invalid API key".toList <:+: e.message.toList

/-- By its code or its type, the quota is used up. -/
def ReportsQuota (e : EndpointError) : Prop :=
  e.code = some "insufficient_quota" ∨ e.type = some "insufficient_quota"

/-- By its code or its type, too much was asked for in too short a time. -/
def ReportsRateLimit (e : EndpointError) : Prop :=
  e.code = some "rate_limit_exceeded" ∨ e.type = some "rate_limit_error"

variable {e : EndpointError}

theorem refusesCredential_iff :
    e.RefusesCredential ↔ e.code = some "invalid_api_key" ∨ e.code = some "authentication_error" ∨
      e.type = some "authentication_error" ∨ e.refusesKey = true := by
  rw [RefusesCredential, refusesKey, Bool.or_eq_true, Text.occursIn_iff, Text.occursIn_iff]

theorem cause_of_refusesCredential (h : e.RefusesCredential) :
    e.cause = .authenticationFailed := by
  rw [cause, if_pos (refusesCredential_iff.1 h)]

theorem cause_of_reportsQuota (h : ¬ e.RefusesCredential) (hquota : e.ReportsQuota) :
    e.cause = .quotaExceeded e.message := by
  rw [refusesCredential_iff] at h
  rw [ReportsQuota] at hquota
  rw [cause, if_neg h, if_pos hquota]

theorem cause_of_reportsRateLimit (h : ¬ e.RefusesCredential) (hquota : ¬ e.ReportsQuota)
    (hrate : e.ReportsRateLimit) : e.cause = .rateLimited none := by
  rw [refusesCredential_iff] at h
  rw [ReportsQuota] at hquota
  rw [ReportsRateLimit] at hrate
  rw [cause, if_neg h, if_neg hquota, if_pos hrate]

end EndpointError

/-- A failure of a kind that says what it comes down to. -/
def ProviderError.HasClass : ProviderError → Prop
  | .authenticationFailed | .rateLimited _ | .quotaExceeded _ => True
  | _ => False

end ChatRelay.Completion

namespace ChatRelay.Generation

open Completion (EndpointError ProviderError)

/-- One of the words stands in a text, in letters of any case. -/
def Mentions (words : List String) (text : String) : Prop :=
  ∃ w ∈ words, w.toList <:+: (Text.lowerCase text).toList

theorem mentions_iff {words : List String} {text : String} :
    mentions (Text.lowerCase text) words = true ↔ Mentions words text := by
  simp only [mentions, List.any_eq_true, Text.occursIn_iff, Mentions]

/-- All words that are looked for are ASCII words. -/
theorem ascii_words {words : List String}
    (h : words ∈ [credentialWords, rateLimitWords, quotaWords]) :
    ∀ w ∈ words, ∀ c ∈ w.toList, c.toNat < 0x80 := by
  have hall : [credentialWords, rateLimitWords, quotaWords].all
      (·.all fun w => w.toList.all fun c => c.toNat < 0x80) = true := by decide
  simp only [List.all_eq_true, decide_eq_true_eq] at hall
  exact hall words h

/-- An ASCII word is found where it stands with capitals. -/
theorem Mentions.of_occurs {words : List String} {text w : String} {p : List Char}
    (hwords : ∀ w ∈ words, ∀ c ∈ w.toList, c.toNat < 0x80) (hw : w ∈ words)
    (h : p <:+: text.toList) (hp : p.map Char.toLower = w.toList) : Mentions words text := by
  refine ⟨w, hw, ?_⟩
  rw [← hp]
  exact Text.infix_lowerCase h fun c hc => hwords w hw c (hp ▸ hc)

namespace FailureClass

/-- What a caller is told when the stream could not be opened. -/
def setupCode : FailureClass → ErrorCode
  | .credential => .unauthenticated
  | .rateLimit => .resourceExhausted
  | .quota => .failedPrecondition
  | .other => .internal

/-- What a caller is told when the stream broke off. -/
def streamCode : FailureClass → ErrorCode
  | .credential => .unauthenticated
  | _ => .internal

/-- A failure of no particular kind is taken for what its text mentions. -/
theorem ofError_cases {e : ProviderError} (h : ¬ e.HasClass) :
    (Mentions credentialWords e.message ∧ ofError e = .credential) ∨
    (¬ Mentions credentialWords e.message ∧
      ((Mentions rateLimitWords e.message ∧ ofError e = .rateLimit) ∨
      (¬ Mentions rateLimitWords e.message ∧
        ((Mentions quotaWords e.message ∧ ofError e = .quota) ∨
        (¬ Mentions quotaWords e.message ∧ ofError e = .other))))) := by
  have htext : ofError e = ofText (Text.lowerCase e.message) := by
    cases e with
    | authenticationFailed | rateLimited | quotaExceeded => exact absurd trivial h
    | _ => rfl
  rw [htext, ofText]
  simp only [← mentions_iff]
  split
  · exact .inl ⟨‹_›, rfl⟩
  · refine .inr ⟨‹_›, ?_⟩
    split
    · exact .inl ⟨‹_›, rfl⟩
    · refine .inr ⟨‹_›, ?_⟩
      split
      · exact .inl ⟨‹_›, rfl⟩
      · exact .inr ⟨‹_›, rfl⟩

end FailureClass

theorem setupError_code_eq (e : ProviderError) :
    (setupError e).code = (FailureClass.ofError e).setupCode := by
  rw [setupError]
  cases FailureClass.ofError e <;> rfl

theorem streamError_code_eq (e : ProviderError) :
    (streamError e).code = (FailureClass.ofError e).streamCode := by
  rw [streamError]
  cases FailureClass.ofError e <;> rfl

/-- What a caller is told of a failure, when the stream is opened and when it has broken off.

* Of what an endpoint reports, signs of a refused credential count most, then the code and the type
  of a used-up quota, then those of a limited rate, whatever the message says besides.
* Whatever the failure, a credential that is refused is told as that by both, and everything else
  after the opening is told as a failure of the service.
* In a failure of no particular kind, the words of a refused credential count more than those of a
  limited rate, and these more than those of a quota, wherever they stand in the text and in letters
  of any case. -/
theorem failure_codes :
    (∀ e : EndpointError,
      (e.RefusesCredential → (setupError e.cause).code = .unauthenticated ∧
        (streamError e.cause).code = .unauthenticated) ∧
      (¬ e.RefusesCredential → e.ReportsQuota → (setupError e.cause).code = .failedPrecondition ∧
        (streamError e.cause).code = .internal) ∧
      (¬ e.RefusesCredential → ¬ e.ReportsQuota → e.ReportsRateLimit →
        (setupError e.cause).code = .resourceExhausted ∧
          (streamError e.cause).code = .internal)) ∧
    (∀ e : ProviderError,
      ((streamError e).code = .unauthenticated ↔ (setupError e).code = .unauthenticated) ∧
      ((streamError e).code ≠ .unauthenticated → (streamError e).code = .internal)) ∧
    ∀ e : ProviderError, ¬ e.HasClass →
      (Mentions credentialWords e.message → (setupError e).code = .unauthenticated) ∧
      (¬ Mentions credentialWords e.message → Mentions rateLimitWords e.message →
        (setupError e).code = .resourceExhausted) ∧
      (¬ Mentions credentialWords e.message → ¬ Mentions rateLimitWords e.message →
        Mentions quotaWords e.message → (setupError e).code = .failedPrecondition) ∧
      (¬ Mentions credentialWords e.message → ¬ Mentions rateLimitWords e.message →
        ¬ Mentions quotaWords e.message → (setupError e).code = .internal) ∧
      ∀ words ∈ [credentialWords, rateLimitWords, quotaWords], ∀ w ∈ words, ∀ p,
        p <:+: e.message.toList → p.map Char.toLower = w.toList → Mentions words e.message := by
  refine ⟨fun e => ⟨fun h => ?_, fun h hquota => ?_, fun h hquota hrate => ?_⟩, fun e => ?_,
    fun e h => ?_⟩
  · rw [EndpointError.cause_of_refusesCredential h]
    exact ⟨rfl, rfl⟩
  · rw [EndpointError.cause_of_reportsQuota h hquota]
    exact ⟨rfl, rfl⟩
  · rw [EndpointError.cause_of_reportsRateLimit h hquota hrate]
    exact ⟨rfl, rfl⟩
  · rw [streamError_code_eq, setupError_code_eq]
    cases FailureClass.ofError e <;> decide
  · rw [setupError_code_eq, ← and_assoc, ← and_assoc, ← and_assoc]
    refine ⟨?_, fun words hwords w hw p hp hsmall => .of_occurs (ascii_words hwords) hw hp hsmall⟩
    obtain ⟨hc, hclass⟩ | ⟨hc, ⟨hr, hclass⟩ | ⟨hr, ⟨hq, hclass⟩ | ⟨hq, hclass⟩⟩⟩ :=
      FailureClass.ofError_cases h
    all_goals simp [*, FailureClass.setupCode]

example :
    (setupError (.provider "Quota: HTTP 429, no AUTHENTICATION")).code = .unauthenticated := by
  decide +kernel

end ChatRelay.Generation

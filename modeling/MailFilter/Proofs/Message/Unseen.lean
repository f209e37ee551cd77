/-
Deleted headers are seen by nobody.

A header that has been deleted stays among the headers of its message, marked. The rules look at headers by
name, line by line and value by value, and the templates at their places; all of these ways lead through
the headers that are not marked. So messages with the same headers left are alike to them.

* `RuleTest.holds_congr`, `RuleSet.evaluate_congr`: what the rules make of messages that are alike;
* `ComposeContext.compose_congr`: what the templates make of them;
* `deleted_headers_unseen`: a message, and the message without its deleted headers.
-/
import MailFilter.Checker.Rules
import MailFilter.Message.Compose

namespace MailFilter

open Text

/-! ### Headers by name -/

theorem Header.filter_answersTo (headers : List Header) (key : String) :
    headers.filter (fun h => h.answersTo key)
      = (headers.filter fun h => !h.deleted).filter fun h => sameName h.key key := by
  rw [List.filter_filter]
  refine List.filter_congr fun h _ => ?_
  rw [answersTo, Bool.and_comm]

/-- The `headersNamed` by a key are found among the `liveHeaders`. -/
theorem Message.headersNamed_eq (m : Message) (key : String) :
    m.headersNamed key = m.liveHeaders.filter fun h => sameName h.key key :=
  Header.filter_answersTo m.headers key

theorem RuleView.header?_eq (v : RuleView) (key : String) :
    v.header? key = ((v.live.filter fun h => sameName h.key key).head?).map (·.value) := by
  rw [header?, Header.filter_answersTo, live]

/-! ### Rules -/

section

variable {π ρ : Type} {isMatch : π → String → Bool}

/-- A `RuleTest` looks at nothing but the body and the headers that are left, whatever it tests. -/
theorem RuleTest.holds_congr {v v' : RuleView} (hbody : v.body = v'.body) (hlive : v.live = v'.live)
    (test : RuleTest π) : test.holds isMatch v = test.holds isMatch v' := by
  have hheader : ∀ key, v.header? key = v'.header? key := by
    intro key
    rw [v.header?_eq, v'.header?_eq, hlive]
  cases test with
  | header p => rw [holds, holds, hlive]
  | body p => rw [holds, holds, hbody]
  | sender p => rw [holds, holds, hheader]
  | subject p => rw [holds, holds, hheader]
  | hasHeader name => rw [holds, holds, hheader]
  | missingHeader name => rw [holds, holds, hheader]
  | bodyLength max => rw [holds, holds, hbody]
  | url p => rw [holds, holds, hbody, hlive]

variable [Score ρ]

theorem RuleSet.evaluate_congr (set : RuleSet π ρ) {m m' : Message} (hbody : m.body = m'.body)
    (hlive : m.liveHeaders = m'.liveHeaders) :
    set.evaluate isMatch m = set.evaluate isMatch m' := by
  have hholds : ∀ test : RuleTest π,
      test.holds isMatch m.ruleView = test.holds isMatch m'.ruleView :=
    RuleTest.holds_congr (congrArg decodeLossy hbody) hlive
  have hmatching : set.matching isMatch m.ruleView = set.matching isMatch m'.ruleView :=
    List.filter_congr fun r _ => by rw [hholds]
  rw [evaluate, evaluate, hmatching]

end

/-! ### Templates -/

namespace ComposeContext

variable {ctx : ComposeContext} {m : Message}

theorem mutations_congr (hlive : m.liveHeaders = ctx.message.liveHeaders)
    (hrecipients : m.recipients = ctx.message.recipients) (t : HeaderTemplate) :
    { ctx with message := m }.mutations t = ctx.mutations t := by
  have hvalues : { ctx with message := m }.values t = ctx.values t := by
    unfold values
    rw [hrecipients]
    rfl
  have hdeletions : m.deletions t.key = ctx.message.deletions t.key := by
    rw [Message.deletions, Message.deletions, m.headersNamed_eq, ctx.message.headersNamed_eq, hlive]
  unfold mutations
  rw [hvalues, hdeletions]

theorem compose_congr (hlive : m.liveHeaders = ctx.message.liveHeaders)
    (hrecipients : m.recipients = ctx.message.recipients)
    (hid : m.synthesizedId = ctx.message.synthesizedId) (templates : List HeaderTemplate) :
    { ctx with message := m }.compose templates = ctx.compose templates := by
  have hmutations : { ctx with message := m }.mutations = ctx.mutations :=
    funext (mutations_congr hlive hrecipients)
  rw [compose, compose, hmutations, hid]

end ComposeContext

/-! ### Without the deleted headers -/

/-- A message from which the headers that are marked deleted have been taken out. -/
def Message.purged (m : Message) : Message :=
  { m with headers := m.headers.filter fun h => !h.deleted }

@[simp] theorem Message.liveHeaders_purged (m : Message) : m.purged.liveHeaders = m.liveHeaders := by
  simp [liveHeaders, purged]

/-- **Deleted headers are unseen**: every rule set, whatever it matches patterns with, has the same
opinion on a message and on the message `purged` of its deleted headers, and templates make the same
changes. -/
theorem deleted_headers_unseen :
    (∀ {π ρ : Type} [Score ρ] (isMatch : π → String → Bool) (set : RuleSet π ρ) (m : Message),
      set.evaluate isMatch m.purged = set.evaluate isMatch m) ∧
    ∀ (ctx : ComposeContext) (templates : List HeaderTemplate),
      { ctx with message := ctx.message.purged }.compose templates = ctx.compose templates :=
  ⟨fun _ set m => set.evaluate_congr (m := m.purged) rfl m.liveHeaders_purged,
    fun ctx => ComposeContext.compose_congr ctx.message.liveHeaders_purged rfl rfl⟩

end MailFilter

/-
Headers composed at the end of a message.

Templates may name the host, the score, the spam flag, the disposition and the recipients; one that
names the recipients yields a header for each of them. A unique template replaces the headers of its
name.
-/
import MailFilter.Message.Mutation
import MailFilter.Text.Substitute

namespace MailFilter

/-- What templates can refer to; `substitute` fills it in. -/
structure ComposeContext where
  hostname : String
  spamFlagThreshold : Float
  message : Message
  verdict : Verdict Float

namespace ComposeContext

/-- Whether a message scores like spam, by `spamFlagThreshold`. -/
def spamFlag (ctx : ComposeContext) : String :=
  if Verdict.reaches ctx.verdict.rejectScore ctx.spamFlagThreshold then "YES" else "NO"

/-- Fills in all but the recipients, for which there is `recipientPlaceholder`. -/
def substitute (ctx : ComposeContext) (template : String) : String :=
  [("%\x7bhostname\x7d", ctx.hostname),
    ("%\x7brejectScore\x7d", Number.twoPlaces ctx.verdict.rejectScore),
    ("%\x7bspamFlag\x7d", ctx.spamFlag), ("%\x7baction\x7d", ctx.verdict.action.name)].foldl
    (fun s (placeholder, value) => Text.substitute placeholder value s) template

/-- The placeholder of a recipient, which `values` fills in. -/
def recipientPlaceholder : String := "%\x7brecipient\x7d"

/-- The values of a template, one for each recipient if it has the `recipientPlaceholder`. -/
def values (ctx : ComposeContext) (template : HeaderTemplate) : List String :=
  let base := ctx.substitute template.value
  let filled :=
    if Text.occursIn recipientPlaceholder.toList base.toList then
      let names := ctx.message.recipients.map Address.text
      (if names.isEmpty then [""] else names).map fun name =>
        Text.substitute recipientPlaceholder name base
    else [base]
  filled.filter fun v => !(Text.trim v).isEmpty

end ComposeContext

/-- Places of headers, each as it is after the deletion of those before it. -/
def successivePlaces (indices : List Nat) : List Nat :=
  match indices with
  | [] => []
  | i :: rest => i :: successivePlaces (rest.map fun j => if i < j then j - 1 else j)
termination_by indices.length

/-- Deletes the headers of a name, one `delete` for each, at `successivePlaces`. -/
def Message.deletions (m : Message) (key : String) : List HeaderMutation :=
  (successivePlaces ((m.headersNamed key).map (·.index))).map (.delete key)

namespace ComposeContext

/-- The changes that a template makes: if it is `unique`, `Message.deletions` come before its values. -/
def mutations (ctx : ComposeContext) (template : HeaderTemplate) : List HeaderMutation :=
  match ctx.values template with
  | [] => []
  | values =>
    (if template.unique then ctx.message.deletions template.key else []) ++
      values.map (.add template.key)

/-- The changes to the headers of a message: `mutations` of each template in turn, and the Message-Id if
the message came without one. -/
def compose (ctx : ComposeContext) (templates : List HeaderTemplate) : List HeaderMutation :=
  templates.flatMap ctx.mutations ++
    (ctx.message.synthesizedId.toList.map (.add "Message-Id"))

end ComposeContext

end MailFilter

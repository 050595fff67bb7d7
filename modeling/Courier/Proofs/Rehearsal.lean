/-
# Rehearsal — what a dry run changes

In a dry run the log stands behind all other implementations and takes whatever gets to it.  So the
log gets what would have had no implementation, and nothing else changes: with a message that a
layer refuses, or that some other implementation takes, the two ways to send do the very same, step
by step (`Rehearses.same`).

Assembly makes no check that depends on the dry run, so it fails in both cases, with one error, or
in neither.
-/
import Courier.Proofs.Routing

namespace Courier

variable {M : Type}

/-- A message has no implementation in the real run, and goes to the log alone in the dry run. -/
structure LeftToLog [Deliverable M] (real dry : Traced (Step M) (Except SendError Unit)) (m : M) :
    Prop where
  unmatched : Fails real (.noMatchingImplementation (Message.channel M) (Message.summary m))
  logged : Delivers dry (.log (Message.channel M).logName) m
  /-- The log succeeds with a final text and fails with a template. -/
  answer : match Message.content m with
    | .text _ => dry.value = .ok ()
    | .template _ => ∃ reason, dry.value = .error (.delivery ⟨(Message.channel M).logName, reason⟩)

/-- How a dry run goes along with the real one, whose implementations are `is`. -/
structure Rehearses [Deliverable M] (env : Environment) (l : Layers M)
    (is : List (Implementation M)) (real dry : M → Traced (Step M) (Except SendError Unit)) :
    Prop where
  /-- A message that is refused by a layer, or taken by an implementation. -/
  same : ∀ m, (∀ m', l.outcome m = .ok m' → ∃ i ∈ is, i.condition.holds env m' = true) →
    dry m = real m
  /-- A message that passes the layers and that no implementation takes. -/
  rest : ∀ m m', l.outcome m = .ok m' → (∀ i ∈ is, i.condition.holds env m' = false) →
    LeftToLog (real m) (dry m) m'

/-- The answer of the log to a body. -/
theorem Transport.result_log [Deliverable M] (name : String) (m : M) :
    match Message.content m with
    | .text _ => ((Transport.log name).deliver m).result = .ok ()
    | .template _ => ∃ reason,
      ((Transport.log name).deliver m).result = .error (.delivery ⟨name, reason⟩) := by
  cases h : Message.content m with
  | text s => simp [Transport.log, h, Content.finalText]
  | template t => simp [Transport.log, h, Content.finalText]

namespace Plan

/-- What stands behind an implementation that takes a message changes nothing for it, and neither
does it for a message that is refused. -/
theorem send_extend [Message M] {p : Plan M} {m : M}
    (taken : ∀ m', p.layers.outcome m = .ok m' →
      ∃ i ∈ p.resolver.implementations, i.condition.holds p.env m' = true)
    (js : List (Implementation M)) (os : List Outcome) :
    (p.extend js os).pipeline.sender.send m = p.pipeline.sender.send m := by
  refine Layers.send_congr fun m' passed => ?_
  cases found : p.resolver.implementations.find? (fun i => i.condition.holds p.env m') with
  | some i => exact Resolver.send_append found js
  | none =>
    obtain ⟨i, hi, holds⟩ := taken m' passed
    exact absurd holds (List.find?_eq_none.1 found i hi)

/-- A message that no implementation takes goes to one that is added and takes it. -/
theorem delivers_extend [Message M] {p : Plan M} {m m' : M} (passed : p.layers.outcome m = .ok m')
    (nobody : p.resolver.implementations.find? (fun i => i.condition.holds p.env m') = none)
    {i : Implementation M} (taken : i.condition.holds p.env m' = true) (os : List Outcome) :
    Delivers ((p.extend [i] os).pipeline.sender.send m) i.transport m' := by
  have last : (p.resolver.implementations ++ [i]).find? (fun i => i.condition.holds p.env m')
      = some i := by
    rw [List.find?_append, nobody, Option.none_or]
    exact List.find?_cons_of_pos taken
  exact send_of_match (p := p.extend [i] os) passed last

/-- A dry run adds the log, after all other implementations. -/
theorem full_dryRun [Deliverable M] (env : Environment) (l : Layers M)
    (is : List (Implementation M)) (network : Http.Network) :
    full env l is network true = (full env l is network false).extend [.log]
      [⟨Message.channel M, (Message.channel M).logName, .registered⟩] := by
  simp [full, known, knownOutcomes]

/-- A full plan of a dry run rehearses the one that is none. -/
theorem rehearses_full [Deliverable M] (env : Environment) (l : Layers M)
    (is : List (Implementation M)) (network : Http.Network) :
    Rehearses env l (is ++ known ((Message.channel M).gateway? env) network false)
      (full env l is network false).pipeline.sender.send
      (full env l is network true).pipeline.sender.send := by
  rw [← implementations_full env l is network false, full_dryRun]
  generalize real : full env l is network false = p
  obtain ⟨rfl, rfl⟩ : p.env = env ∧ p.layers = l := by
    subst real
    exact ⟨rfl, rfl⟩
  refine ⟨fun m taken => send_extend taken _ _, fun m m' passed refused => ?_⟩
  have nobody : p.resolver.implementations.find? (fun i => i.condition.holds p.env m') = none :=
    List.find?_eq_none.2 fun i hi => by simp [refused i hi]
  have logged := delivers_extend passed nobody (i := .log) rfl
    [⟨Message.channel M, (Message.channel M).logName, .registered⟩]
  refine ⟨send_of_no_match passed nobody, logged, ?_⟩
  rw [logged.answer]
  exact Transport.result_log _ m'

end Plan

/-- A channel of a dry run rehearses that of the real run if it is enabled, and is just as silent
if it is not. -/
theorem Pipeline.rehearses_ofEnabled [Deliverable M] (enabled : Bool) (env : Environment)
    (l : Layers M) (is : List (Implementation M)) (network : Http.Network) :
    let send := fun dryRun =>
      Service.sendThrough ((ofEnabled enabled env l is network dryRun).map (·.sender))
    if enabled then
      Rehearses env l (is ++ Plan.known ((Message.channel M).gateway? env) network false)
        (send false) (send true)
    else ∀ m, send true m = send false m := by
  cases enabled with
  | false => exact fun _ => rfl
  | true => exact Plan.rehearses_full env l is network

/-- **A dry run changes nothing but what has no implementation.**  Assembly fails in the dry run
exactly if it does in the real one, and with the same error.  On a channel that is enabled, the dry
run does just what the real one does, except with a message that passes the layers and that no
implementation of the real run takes: there it has no implementation, and the dry run hands it to
the log, which succeeds with a final text and fails with a template.  On a channel that is not
enabled there is no difference. -/
theorem Assembly.rehearses_of_dryRun (c : Config) (env : Environment) (world : World)
    (rs : List Registration) :
    match (assemble { c with dryRun := false } env world rs).value,
      (assemble { c with dryRun := true } env world rs).value with
    | .error e, .error e' => e' = e
    | .ok (real, _), .ok (dry, _) =>
      (if c.sms.enabled then
        Rehearses env (c.smsLayers env world.files)
          (rs.filterMap (·.sms?) ++ Plan.known (Channel.sms.gateway? env) world.network false)
          real.sendSms dry.sendSms
      else ∀ m, dry.sendSms m = real.sendSms m) ∧
      (if c.email.enabled then
        Rehearses env (c.emailLayers env world.files)
          (rs.filterMap (·.email?) ++ Plan.known (Channel.email.gateway? env) world.network false)
          real.sendEmail dry.sendEmail
      else ∀ m, dry.sendEmail m = real.sendEmail m)
    | _, _ => False := by
  have sameCheck : ∀ dryRun, ({ c with dryRun } : Config).check env = c.check env := fun _ => rfl
  rw [value_assemble, value_assemble, sameCheck false, sameCheck true]
  cases c.check env with
  | error e => rfl
  | ok _ =>
    have sms := Pipeline.rehearses_ofEnabled c.sms.enabled env (c.smsLayers env world.files)
      (rs.filterMap (·.sms?)) world.network
    have email := Pipeline.rehearses_ofEnabled c.email.enabled env (c.emailLayers env world.files)
      (rs.filterMap (·.email?)) world.network
    exact ⟨sms, email⟩

end Courier

/-
# Enumeration — lists of recipients out of properties

A list in a configuration is kept as one text with commas between its items, and a filler takes that
text apart where a message has no recipients.  What comes back are the items without the blanks
around them, as long as something is left of each and none has a comma of its own
(`Text.commaItems_intercalate`); nothing but the table of the configuration has a say in it.

A filler looks for a list as it does for any field: the first prefix counts whose property is not
blank.  A text of commas and blanks is not blank, yet it has no items.  So the items that a message
gets are those of the first property that has any only if what stands before it is blank
(`Filler.Lists`), and otherwise it gets none.
-/
import Courier.Proofs.Assembled
import Courier.Proofs.Completion
import Courier.Proofs.Flattening

namespace Courier

/-! ## Items -/

namespace Text

/-- An item that can be found again: something is left of it, and no comma is in it. -/
structure IsItem (s : String) : Prop where
  text : isBlankText s = false
  plain : ',' ∉ s.toList

instance : DecidablePred IsItem := fun s =>
  decidable_of_iff (isBlankText s = false ∧ ',' ∉ s.toList)
    ⟨fun h => ⟨h.1, h.2⟩, fun h => ⟨h.text, h.plain⟩⟩

theorem commaItems_of_blank {s : String} (h : isBlankText s = true) : commaItems s = [] := by
  have nothing : trim s = "" := by
    rw [trim, trimChars_eq_nil_iff.2 h, String.ofList_nil]
  rw [← commaItems_trim, nothing]
  rfl

/-- Items with commas between them are taken apart where they were put together. -/
theorem commaItems_intercalate {items : List String} (nonempty : items ≠ [])
    (h : ∀ s ∈ items, IsItem s) : commaItems (",".intercalate items) = items.map trim := by
  have split : (",".intercalate items).toList.splitOn ',' = items.map String.toList := by
    rw [String.toList_intercalate]
    refine List.splitOn_intercalate ',' ?_ (by simpa using nonempty)
    rintro cs hcs
    obtain ⟨s, hs, rfl⟩ := List.mem_map.1 hcs
    exact (h s hs).plain
  rw [commaItems, split, List.map_map, List.filterMap_map, ← List.filterMap_eq_map]
  refine List.filterMap_congr fun s hs => ?_
  have left : trimChars s.toList ≠ [] := by
    intro none
    have blank : isBlankText s = true := trimChars_eq_nil_iff.1 none
    rw [(h s hs).text] at blank
    cases blank
  exact if_neg left

end Text

/-! ## Lists of a filler -/

namespace Filler

variable {env : Environment} {field p s : String} {prefixes : List String}

theorem value_list_cons_of_lacks (lacks : env.Lacks (p ++ "." ++ field)) :
    ((propertySource env (p :: prefixes)).list field).value
      = ((propertySource env prefixes).list field).value := by
  have nothing : nonBlank? (env.property (p ++ "." ++ field)) = none := by
    cases h : env.property (p ++ "." ++ field) with
    | none => rfl
    | some s => exact if_pos (lacks s h)
  simp only [propertySource, Traced.value_bind, firstProperty, Environment.askProperty,
    Traced.value_one, nothing]

theorem value_list_cons_of_text (here : env.property (p ++ "." ++ field) = some s)
    (text : Text.isBlankText s = false) :
    ((propertySource env (p :: prefixes)).list field).value = Text.commaItems s := by
  have found : nonBlank? (env.property (p ++ "." ++ field)) = some (Text.trim s) := by
    rw [here]
    exact if_neg (by simp [text])
  simp only [propertySource, Traced.value_bind, firstProperty, Environment.askProperty,
    Traced.value_one, found, Traced.value_pure, Text.commaItems_trim]

/-- The first property under some prefixes that has an item, and the prefixes before it. -/
inductive Lists (env : Environment) (field : String) :
    List String → List String → String → Prop
  | intro {before after : List String} {p s : String}
      (earlier : ∀ q ∈ before, ∀ t, env.property (q ++ "." ++ field) = some t →
        Text.commaItems t = [])
      (here : env.property (p ++ "." ++ field) = some s) (items : Text.commaItems s ≠ []) :
      Lists env field (before ++ p :: after) before s

theorem Lists.items {before : List String} (h : Lists env field prefixes before s) :
    Text.commaItems s ≠ [] := by
  cases h with
  | intro _ _ items => exact items

/-- A text without items hides all behind it, unless it is blank. -/
theorem Lists.value_list {before : List String} (h : Lists env field prefixes before s) :
    ((∀ q ∈ before, env.Lacks (q ++ "." ++ field)) →
        ((propertySource env prefixes).list field).value = Text.commaItems s)
      ∧ ((∃ q ∈ before, ¬ env.Lacks (q ++ "." ++ field)) →
        ((propertySource env prefixes).list field).value = []) := by
  obtain ⟨earlier, here, items⟩ := h
  rename_i after p
  induction before with
  | nil =>
    have text : Text.isBlankText s = false :=
      Bool.eq_false_iff.2 fun blank => items (Text.commaItems_of_blank blank)
    exact ⟨fun _ => value_list_cons_of_text here text, fun ⟨_, hq, _⟩ => (by cases hq)⟩
  | cons q before ih =>
    obtain ⟨shown, hidden⟩ := ih fun r hr => earlier r (List.mem_cons_of_mem q hr)
    by_cases lacks : env.Lacks (q ++ "." ++ field)
    · rw [List.cons_append, value_list_cons_of_lacks lacks]
      refine ⟨fun all => shown fun r hr => all r (List.mem_cons_of_mem q hr), ?_⟩
      rintro ⟨r, hr, text⟩
      rcases List.mem_cons.1 hr with rfl | hr
      · exact absurd lacks text
      · exact hidden ⟨r, hr, text⟩
    · refine ⟨fun all => absurd (all q List.mem_cons_self) lacks, fun _ => ?_⟩
      obtain ⟨t, there, text⟩ : ∃ t, env.property (q ++ "." ++ field) = some t
          ∧ Text.isBlankText t = false := by
        simpa [Environment.Lacks] using lacks
      rw [List.cons_append, value_list_cons_of_text there text]
      exact earlier q List.mem_cons_self t there

theorem Lists.value_list_eq_iff {before : List String} (h : Lists env field prefixes before s) :
    ((propertySource env prefixes).list field).value = Text.commaItems s
      ↔ ∀ q ∈ before, env.Lacks (q ++ "." ++ field) := by
  refine ⟨fun shown => ?_, h.value_list.1⟩
  by_contra text
  push Not at text
  exact h.items (shown.symm.trans (h.value_list.2 text))

theorem Lists.value_list_eq_nil_iff {before : List String}
    (h : Lists env field prefixes before s) :
    ((propertySource env prefixes).list field).value = []
      ↔ ∃ q ∈ before, ¬ env.Lacks (q ++ "." ++ field) := by
  refine ⟨fun hidden => ?_, h.value_list.2⟩
  by_contra all
  push Not at all
  exact h.items ((h.value_list.1 all).symm.trans hidden)

end Filler

theorem Sms.recipients_fill (source : FieldSource) {m : Sms} (unset : m.recipients = []) :
    (m.fill source).value.recipients = (source.list "to").value.map .raw := by
  simp only [fill, unset, orAskList, Traced.value_bind, Traced.value_map, Traced.value_pure]

theorem Email.recipients_fill (source : FieldSource) {m : Email} (unset : m.recipients = []) :
    (m.fill source).value.recipients = (source.list "to").value := by
  simp only [fill, unset, orAskList, Traced.value_bind, Traced.value_pure]

/-- **Which list a message gets.**  Of all properties for recipients that have an item, a filler
takes the first, and a message without recipients gets its items, exactly if nothing but blank
properties stand before it; where a text without items stands before it, the message gets none. -/
theorem Filler.lists_recipients (env : Environment) (prefixes before : List String) (s : String)
    (h : Filler.Lists env "to" prefixes before s) :
    (∀ m : Sms, m.recipients = [] →
      (((properties env prefixes).fill m).value.recipients = (Text.commaItems s).map .raw
          ↔ ∀ q ∈ before, env.Lacks (q ++ "." ++ "to"))
        ∧ (((properties env prefixes).fill m).value.recipients = []
          ↔ ∃ q ∈ before, ¬ env.Lacks (q ++ "." ++ "to")))
      ∧ ∀ m : Email, m.recipients = [] →
        (((properties env prefixes).fill m).value.recipients = Text.commaItems s
            ↔ ∀ q ∈ before, env.Lacks (q ++ "." ++ "to"))
          ∧ (((properties env prefixes).fill m).value.recipients = []
            ↔ ∃ q ∈ before, ¬ env.Lacks (q ++ "." ++ "to")) := by
  constructor
  · intro m unset
    have filled : ((properties env prefixes).fill m).value.recipients
        = ((propertySource env prefixes).list "to").value.map .raw := Sms.recipients_fill _ unset
    have raw_injective : Function.Injective PhoneNumber.raw := fun _ _ => PhoneNumber.raw.inj
    rw [filled, raw_injective.list_map.eq_iff, List.map_eq_nil_iff]
    exact ⟨h.value_list_eq_iff, h.value_list_eq_nil_iff⟩
  · intro m unset
    have filled : ((properties env prefixes).fill m).value.recipients
        = ((propertySource env prefixes).list "to").value := Email.recipients_fill _ unset
    rw [filled]
    exact ⟨h.value_list_eq_iff, h.value_list_eq_nil_iff⟩

/-- Lists behind a prefix without a list, and behind a blank one. -/
theorem Filler.lists_recipients_behind_blank :
    let env : Environment := .of (.ofList [("any.to", " "), ("sms.to", "0171, ,0172")]) .detect
    let prefixes := ["any", "app", "sms"]
    let order : Sms := ⟨.text "hi", none, []⟩
    Filler.Lists env "to" prefixes ["any", "app"] "0171, ,0172"
      ∧ (∀ q ∈ ["any", "app"], env.Lacks (q ++ "." ++ "to"))
      ∧ ((properties env prefixes).fill order).value.recipients = [.raw "0171", .raw "0172"] := by
  intro env prefixes order
  have lacks : ∀ q ∈ ["any", "app"], env.Lacks (q ++ "." ++ "to") := by
    unfold Environment.Lacks
    decide +kernel
  have lists : Filler.Lists env "to" (["any", "app"] ++ ["sms"]) ["any", "app"] "0171, ,0172" := by
    refine .intro ?_ (by decide +kernel) (by decide +kernel)
    exact fun q hq t ht => Text.commaItems_of_blank (lacks q hq t ht)
  have items : Text.commaItems "0171, ,0172" = ["0171", "0172"] := by decide +kernel
  have filled := (lists_recipients env prefixes _ _ lists).1 order rfl
  exact ⟨lists, lacks, (filled.1.2 lacks).trans (congrArg (List.map PhoneNumber.raw) items)⟩

/-- A comma alone is no item, but it hides the list behind it. -/
theorem Filler.comma_hides_list :
    let env : Environment :=
      .of (.ofList [("herald.sms.to", ","), ("sms.to", "0612345678")]) .detect
    Filler.Lists env "to" Channel.sms.prefixes ["herald.sms"] "0612345678"
      ∧ Text.commaItems "0612345678" = ["0612345678"]
      ∧ ((properties env Channel.sms.prefixes).fill
          (⟨.text "hi", none, []⟩ : Sms)).value.recipients = [] := by
  intro env
  refine ⟨?_, by decide +kernel, by decide +kernel⟩
  show Filler.Lists env "to" (["herald.sms"] ++ ["sms"]) ["herald.sms"] "0612345678"
  exact .intro (by decide +kernel) (by decide +kernel) (by decide +kernel)

/-! ## Lists of a configuration -/

namespace Toml

/-- A leaf, and the only one that has its key. -/
structure OnlyLeaf (t : Table) (key : String) (path : List String) (v : Value) : Prop where
  leaf : Leaf t path v
  named : dotted path = key
  only : ∀ path' v', Leaf t path' v' → dotted path' = key → path' = path ∧ v' = v

/-- With one leaf alone the order of names does not matter. -/
theorem OnlyLeaf.find?_flatten {t : Table} {key : String} {path : List String} {v : Value}
    (h : OnlyLeaf t key path v) : Entries.find? key (flatten t) = some v.leafText := by
  have present : key ∈ (flatten t).map (·.1) :=
    Entries.mem_keys_ofList.2 (mem_keys_keyed.2 ⟨path, v, h.leaf, h.named⟩)
  obtain ⟨s, found⟩ := Option.isSome_iff_exists.1 ((Entries.isSome_find? key _).2 present)
  obtain ⟨before, after, split, -⟩ := Entries.find?_ofList_eq_some_iff.1 found
  have listed : keyed t = before ++ (key, s) :: after := split
  have member : (key, s) ∈ keyed t := by
    rw [listed]
    exact List.mem_append_right _ List.mem_cons_self
  obtain ⟨⟨path', v'⟩, leaf', same⟩ := List.mem_map.1 member
  obtain ⟨named', text⟩ := Prod.mk.inj same
  obtain ⟨-, rfl⟩ := h.only path' v' (mem_leavesOf.1 leaf') named'
  rw [found, ← text]

theorem leafText_texts (items : List String) :
    (Value.list (items.map .text)).leafText = ",".intercalate items := by
  have texts : (items.map Value.text).filterMap (·.scalarText?) = items := by
    rw [List.filterMap_map]
    exact List.filterMap_some
  rw [Value.leafText, texts]

end Toml

namespace Config

variable {process : EnvFile.Names} {files : Files} {base : String} {c : Config} {env : Environment}

theorem value_environment_eq_ok_iff :
    (c.environment process files base).value = .ok env ↔
      ∃ p, (c.loadProperties process files base).value = .ok p ∧ env = .of p c.capabilities := by
  simp only [environment, Traced.value_bind]
  cases loaded : (c.loadProperties process files base).value with
  | error e =>
    constructor
    · rintro ⟨⟩
    · rintro ⟨p, ⟨⟩, -⟩
  | ok p =>
    constructor
    · intro h
      exact ⟨p, rfl, (Except.ok.inj h).symm⟩
    · rintro ⟨p', same, rfl⟩
      obtain rfl := Except.ok.inj same
      rfl

/-- What a configuration sets is what its environment has. -/
theorem property_of_environment {key s : String}
    (assembled : (c.environment process files base).value = .ok env)
    (own : Entries.find? key (Toml.flatten c.properties) = some s) : env.property key = some s := by
  obtain ⟨p, loaded, rfl⟩ := value_environment_eq_ok_iff.1 assembled
  obtain ⟨assigned, -, rfl⟩ := value_loadProperties_eq_ok_iff.1 loaded
  have there : c.ownProperties.get? key = some s := by
    rw [Properties.get?, entries_ownProperties, own]
  have joined := Properties.get?_mergeMissing c.ownProperties (.ofList assigned) key
  rw [there] at joined
  exact joined

/-- A list that a configuration sets for the recipients of a channel, with no other leaf in its
place. -/
structure Enlists (c : Config) (channel : Channel) (items : List String) : Prop where
  nonempty : items ≠ []
  each : ∀ s ∈ items, Text.IsItem s
  leaf : ∃ path, Toml.OnlyLeaf c.properties ("herald." ++ channel.name ++ "." ++ "to") path
    (.list (items.map .text))

/-- The list of the first prefix hides all others. -/
theorem Enlists.value_list {channel : Channel} {items : List String}
    (h : c.Enlists channel items)
    (assembled : (c.environment process files base).value = .ok env) :
    ((Filler.propertySource env channel.prefixes).list "to").value = items.map Text.trim := by
  obtain ⟨path, only⟩ := h.leaf
  have own := only.find?_flatten
  rw [Toml.leafText_texts] at own
  have here := property_of_environment assembled own
  have taken := Text.commaItems_intercalate h.nonempty h.each
  have text : Text.isBlankText (",".intercalate items) = false := by
    refine Bool.eq_false_iff.2 fun blank => h.nonempty ?_
    rw [Text.commaItems_of_blank blank] at taken
    exact List.map_eq_nil_iff.1 taken.symm
  exact (Filler.value_list_cons_of_text here text).trans taken

end Config

/-! ## Pipelines -/

theorem Layers.filler?_setAddressing (l : Layers Sms) (a : Addressing) :
    (l.setAddressing a).filler? = l.filler? := by
  have other : (Layer.numbers ⟨a.translateSms⟩ : Layer Sms).kind ≠ .filler := nofun
  exact congrArg (·.bind Layer.filler?) (Layers.get?_set_ne l other)

theorem Config.filler?_ownLayers {M : Type} [Message M] (c : Config) (env : Environment)
    (files : Files) (own : Option LocationConfig) :
    (c.ownLayers env files true own : Layers M).filler?
      = some (.properties env (Message.channel M).prefixes) := by
  unfold ownLayers filling
  cases c.templates.enabled <;> rfl

namespace Plan

variable {M : Type} [Message M] {env : Environment}

/-- Messages are filled in from the properties of their channel in an environment. -/
def AutoFills (p : Plan M) (env : Environment) : Prop :=
  p.layers.filler? = some (.properties env (Message.channel M).prefixes)

theorem autoFills_withAutoFilling (p : Plan M) : p.withAutoFilling.AutoFills p.env := by
  have held := Layers.get?_set_self p.layers
    (.filler (.properties p.env (Message.channel M).prefixes))
  exact congrArg (·.bind Layer.filler?) held

/-- The pipelines that are assembled for a configuration fill in where it asks for that. -/
theorem autoFills_of_config (c : Config) (world : World) (dryRun : Bool) :
    (c.sms.fill = true → ∀ is,
        (full env (c.smsLayers env world.files) is world.network dryRun).AutoFills env)
      ∧ (c.email.fill = true → ∀ is,
        (full env (c.emailLayers env world.files) is world.network dryRun).AutoFills env) := by
  constructor
  · intro fill is
    show (c.smsLayers env world.files).filler? = _
    unfold Config.smsLayers
    rw [fill]
    cases c.sms.addressing with
    | false => exact c.filler?_ownLayers env _ _
    | true => exact (Layers.filler?_setAddressing _ _).trans (c.filler?_ownLayers env _ _)
  · intro fill is
    show (c.emailLayers env world.files).filler? = _
    unfold Config.emailLayers
    rw [fill]
    exact c.filler?_ownLayers env _ _

/-- A text that a transport gets has the recipients that it was filled in with, each in its place,
and perhaps as an address. -/
theorem applied_of_mem_deliveries {p : Plan Sms} {a? : Option Addressing} {m : Sms}
    (numbers : p.layers.numbers? = a?.map fun a => ⟨a.translateSms⟩)
    {d : String × Sms × List Effect}
    (handed : d ∈ Step.deliveries (p.build.value.sender.send m).trace) :
    Addressing.Applied a? (p.layers.filled m) d.2.1 := by
  obtain ⟨m₂, translated, addressed⟩ := Layers.outcome_eq_ok (outcome_of_mem_deliveries handed)
  obtain ⟨c, rfl⟩ := Layers.exists_withContent_of_translated translated
  cases Layers.applied_of_addressed numbers addressed with
  | absent sender recipients => exact .absent sender recipients
  | present sender recipients => exact .present sender recipients

theorem recipients_of_mem_deliveries {p : Plan Email} {m : Email}
    (numbers : p.layers.numbers? = none) {d : String × Email × List Effect}
    (handed : d ∈ Step.deliveries (p.build.value.sender.send m).trace) :
    d.2.1.recipients = (p.layers.filled m).recipients := by
  obtain ⟨m₂, translated, addressed⟩ := Layers.outcome_eq_ok (outcome_of_mem_deliveries handed)
  obtain ⟨c, rfl⟩ := Layers.exists_withContent_of_translated translated
  rw [Layers.addressed, numbers] at addressed
  have same : Message.withContent (p.layers.filled m) c = d.2.1 := Except.ok.inj addressed
  rw [← same]
  rfl

end Plan

/-- **A list in a configuration arrives as it was written.**  Where a configuration has a list of
texts at the first place for the recipients of a channel, none of them blank or with a comma, a
message without recipients that is filled in by default gets these texts without outer blanks, each
in its place; what stands at the second place, or in the file of assignments, does not matter.  With
these recipients it goes on: what a transport gets has them, or their addresses. -/
theorem Config.enlists_recipients (process : EnvFile.Names) (files : Files) (base : String)
    (c : Config) (env : Environment)
    (assembled : (c.environment process files base).value = .ok env) :
    (∀ items, c.Enlists .sms items → ∀ p : Plan Sms, p.AutoFills env →
      ∀ m, m.recipients = [] →
        (p.layers.filled m).recipients = items.map (fun s => .raw (Text.trim s))
          ∧ ∀ a?, p.layers.numbers? = a?.map (fun a => ⟨a.translateSms⟩) →
            ∀ d ∈ Step.deliveries (p.build.value.sender.send m).trace,
              Addressing.Applied a? (p.layers.filled m) d.2.1)
      ∧ ∀ items, c.Enlists .email items → ∀ p : Plan Email, p.AutoFills env →
        ∀ m, m.recipients = [] →
          (p.layers.filled m).recipients = items.map Text.trim
            ∧ (p.layers.numbers? = none →
              ∀ d ∈ Step.deliveries (p.build.value.sender.send m).trace,
                d.2.1.recipients = items.map Text.trim) := by
  constructor
  · intro items enlists p fills m unset
    refine ⟨?_, fun a? numbers d handed => Plan.applied_of_mem_deliveries numbers handed⟩
    have filled := Sms.recipients_fill (Filler.propertySource env Channel.sms.prefixes) unset
    rw [enlists.value_list assembled, List.map_map] at filled
    exact (congrArg Sms.recipients (Layers.filled_eq fills m)).trans filled
  · intro items enlists p fills m unset
    have filled : (p.layers.filled m).recipients = items.map Text.trim := by
      rw [Layers.filled_eq fills m]
      exact (Email.recipients_fill _ unset).trans (enlists.value_list assembled)
    refine ⟨filled, fun numbers d handed => ?_⟩
    rw [Plan.recipients_of_mem_deliveries numbers handed, filled]

/-- Lists under a name with a dot and in a table of their own, with other recipients at the second
place and in the file. -/
theorem Config.enlists_recipients_over_file :
    let t : Toml.Table :=
      [("herald", .table
          [("email.to", .list [.text "a@b.org "]),
            ("sms", .table [("to", .list [.text " 0171", .text "0172", .text " 0171"])])]),
        ("sms.to", .text "0179")]
    let c : Config := { Config.standard with envFile := some "x.env", properties := t }
    let files : Files :=
      ⟨[], [(["x.env"], .file "herald.sms.to=0178\nemail.to=c@d.org\n".toUTF8)]⟩
    ∃ env, (c.environment (fun _ => none) files ".").value = .ok env
      ∧ c.Enlists .sms [" 0171", "0172", " 0171"] ∧ c.Enlists .email ["a@b.org "]
      ∧ ((Plan.full env (c.smsLayers env files) [] .silent false).layers.filled
          ⟨.text "hi", none, []⟩).recipients = [.raw "0171", .raw "0172", .raw "0171"]
      ∧ ((Plan.new env).withAutoFilling.layers.filled
          (⟨.text "hi", none, none, [], [], []⟩ : Email)).recipients = ["a@b.org"] := by
  intro t c files
  have loads : Properties.Assigned (fun _ => none) files "./x.env"
      [("herald.sms.to", "0178"), ("email.to", "c@d.org")] :=
    ⟨by decide +kernel, _, rfl, by decide +kernel⟩
  obtain ⟨env, assembled⟩ : ∃ env, (c.environment (fun _ => none) files ".").value = .ok env :=
    ⟨_, value_environment_eq_ok_iff.2
      ⟨_, value_loadProperties_eq_ok_iff.2 ⟨_, .named rfl loads, rfl⟩, rfl⟩⟩
  have leaves : ∀ path v, Toml.Leaf t path v →
      (path = ["herald", "email.to"] ∧ v = .list [.text "a@b.org "])
        ∨ (path = ["herald", "sms", "to"] ∧ v = .list [.text " 0171", .text "0172", .text " 0171"])
        ∨ (path = ["sms.to"] ∧ v = .text "0179") := by
    intro path v leaf
    simpa [Toml.leavesOf, Toml.Value.leaves, t] using Toml.mem_leavesOf.2 leaf
  have texts : c.Enlists .sms [" 0171", "0172", " 0171"] := by
    refine ⟨List.cons_ne_nil _ _, by decide +kernel, ["herald", "sms", "to"], ?_, rfl, ?_⟩
    · exact Toml.mem_leavesOf.1 (.tail _ (.head _))
    · intro path v leaf named
      rcases leaves path v leaf with ⟨rfl, -⟩ | here | ⟨rfl, -⟩
      · exact absurd named (by decide +kernel)
      · exact here
      · exact absurd named (by decide +kernel)
  have letters : c.Enlists .email ["a@b.org "] := by
    refine ⟨List.cons_ne_nil _ _, by decide +kernel, ["herald", "email.to"], ?_, rfl, ?_⟩
    · exact Toml.mem_leavesOf.1 (.head _)
    · intro path v leaf named
      rcases leaves path v leaf with here | ⟨rfl, -⟩ | ⟨rfl, -⟩
      · exact here
      · exact absurd named (by decide +kernel)
      · exact absurd named (by decide +kernel)
  obtain ⟨arriveTexts, arriveLetters⟩ := enlists_recipients _ _ _ c env assembled
  have fills : (Plan.full env (c.smsLayers env files) [] .silent false).AutoFills env :=
    (Plan.autoFills_of_config c ⟨files, .silent⟩ false).1 rfl []
  have filledText := (arriveTexts _ texts _ fills ⟨.text "hi", none, []⟩ rfl).1
  have filledLetter := (arriveLetters _ letters _ (Plan.autoFills_withAutoFilling (Plan.new env))
    ⟨.text "hi", none, none, [], [], []⟩ rfl).1
  have trimmedText : [" 0171", "0172", " 0171"].map (fun s => PhoneNumber.raw (Text.trim s))
      = [.raw "0171", .raw "0172", .raw "0171"] := by decide +kernel
  have trimmedLetter : ["a@b.org "].map Text.trim = ["a@b.org"] := by decide +kernel
  exact ⟨env, assembled, texts, letters, filledText.trans trimmedText,
    filledLetter.trans trimmedLetter⟩

end Courier

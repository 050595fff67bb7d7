/-
# Recovery — a gateway can tell from a request what the message said

The body of a request is the text of a payload.  A gateway that reads it as a document and takes the
fields of the document by their names has the payload again (`SmsPayload.decode`,
`EmailPayload.decode`): a field that is not set is null and no text, and of the lists only those of
copies are left out, and only when they are empty.

So what can be recovered of a message is its payload, and bodies are equal exactly where payloads
are (`Webhook.tells_apart`).  A payload holds all there is to a letter with a final text.  Of the
phone numbers of a text it holds what goes over the wire, which a raw number and an address whose
type and plan are unknown have in common.
-/
import Courier.Proofs.Rereading
import Courier.Transport.Webhook

namespace Courier

open Json (Value Exact)

/-! ## Reading payloads -/

/-- Reads a wire address from a document. -/
def WireAddress.decode : Value → Except DecodeError WireAddress :=
  Decode.record .json "WireAddress"
    [Decode.field "number" Decode.text fun s w => { w with number := s },
     Decode.field "ton" Decode.size fun n w => { w with ton := n },
     Decode.field "npi" Decode.size fun n w => { w with npi := n }] ⟨"", 0, 0⟩

/-- Reads the payload of a text from a document. -/
def SmsPayload.decode : Value → Except DecodeError SmsPayload :=
  Decode.record .json "SmsPayload"
    [Decode.field "from" (Decode.optional WireAddress.decode) fun s p => { p with sender := s },
     Decode.field "to" (Decode.list WireAddress.decode) fun ws p => { p with recipients := ws },
     Decode.field "text" Decode.text fun s p => { p with text := s }] ⟨none, [], ""⟩

/-- Reads the payload of a letter from a document; a list that is left out is empty. -/
def EmailPayload.decode : Value → Except DecodeError EmailPayload :=
  Decode.record .json "EmailPayload"
    [Decode.field "from" (Decode.optional Decode.text) fun s p => { p with sender := s },
     Decode.field "to" (Decode.list Decode.text) fun ss p => { p with recipients := ss },
     Decode.field "cc" (Decode.list Decode.text) fun ss p => { p with cc := ss },
     Decode.field "bcc" (Decode.list Decode.text) fun ss p => { p with bcc := ss },
     Decode.field "subject" (Decode.optional Decode.text) fun s p => { p with subject := s },
     Decode.field "body" Decode.text fun s p => { p with body := s }] ⟨none, [], [], [], none, ""⟩

namespace Decode

theorem list_map {α : Type} {read : Value → Except DecodeError α} {write : α → Value} {as : List α}
    (h : ∀ a ∈ as, read (write a) = .ok a) : list read (.list (as.map write)) = .ok as := by
  show (as.map write).mapM read = .ok as
  induction as with
  | nil => rfl
  | cons a as ih =>
    rw [List.forall_mem_cons] at h
    rw [List.map_cons, List.mapM_cons, h.1, ih h.2]
    rfl

theorem list_texts (ss : List String) : list text (Value.texts ss) = .ok ss :=
  list_map fun _ _ => rfl

theorem optional_ofText? : ∀ s : Option String, optional text (Value.ofText? s) = .ok s
  | none => rfl
  | some _ => rfl

end Decode

/-! ## Payloads as they are read

The members of a document come back in the order of their names. -/

namespace Json.Value

theorem itemsAsMaps_eq_map (items : List Value) : itemsAsMaps items = items.map asMaps := by
  induction items with
  | nil => rfl
  | cons v items ih => rw [itemsAsMaps, ih, List.map_cons]

theorem asMaps_texts (ss : List String) : (texts ss).asMaps = texts ss := by
  rw [texts, asMaps, itemsAsMaps_eq_map, List.map_map]
  rfl

theorem asMaps_ofText? : ∀ s : Option String, (ofText? s).asMaps = ofText? s
  | none => rfl
  | some _ => rfl

end Json.Value

namespace WireAddress

theorem asMaps_toJson (w : WireAddress) : w.toJson.asMaps
    = .object [("npi", .int w.npi), ("number", .text w.number), ("ton", .int w.ton)] := by
  simp (disch := decide) [toJson, Value.asMaps, Value.membersAsMaps, Value.int, Entries.ofList,
    Entries.insert_nil, Entries.insert_of_lt, Entries.insert_of_gt]

theorem decode_asMaps (w : WireAddress) : decode w.toJson.asMaps = .ok w := by
  rw [asMaps_toJson]
  simp [decode, Decode.record, Decode.members, Decode.field, Decode.text, Decode.textAs,
    Decode.size, Value.int, Except.map, bind, Except.bind]

/-- An address is an object, so it is never taken for null. -/
theorem optional_decode_asMaps (w : WireAddress) :
    Decode.optional decode w.toJson.asMaps = .ok (some w) := by
  have here := w.decode_asMaps
  rw [asMaps_toJson] at here ⊢
  simp only [Decode.optional, here, Except.map]

end WireAddress

namespace SmsPayload

theorem asMaps_toJson (p : SmsPayload) : p.toJson.asMaps
    = .object [("channel", .text "sms"),
      ("from", match p.sender with
        | some w => w.toJson.asMaps
        | none => .null),
      ("text", .text p.text), ("to", .list (p.recipients.map fun w => w.toJson.asMaps))] := by
  obtain ⟨sender, recipients, text⟩ := p
  cases sender <;>
    simp (disch := decide) [toJson, Value.asMaps, Value.membersAsMaps, Value.itemsAsMaps_eq_map,
      Entries.ofList, Entries.insert_nil, Entries.insert_of_lt, Entries.insert_of_gt, Channel.name]

theorem decode_asMaps (p : SmsPayload) : decode p.toJson.asMaps = .ok p := by
  rw [asMaps_toJson]
  obtain ⟨sender, recipients, text⟩ := p
  have final (s : String) : Decode.text (.text s) = .ok s := rfl
  have wires : Decode.list WireAddress.decode
      (.list (recipients.map fun w => w.toJson.asMaps)) = .ok recipients :=
    Decode.list_map fun w _ => w.decode_asMaps
  cases sender with
  | none =>
    simp [decode, Decode.record, Decode.members, Decode.field, final, wires, Decode.optional,
      Except.map, bind, Except.bind]
  | some w =>
    simp [decode, Decode.record, Decode.members, Decode.field, final, wires,
      w.optional_decode_asMaps, Except.map, bind, Except.bind]

end SmsPayload

namespace EmailPayload

theorem asMaps_toJson (p : EmailPayload) : p.toJson.asMaps
    = .object (unlessEmpty "bcc" p.bcc ++ ("body", .text p.body) :: (unlessEmpty "cc" p.cc
      ++ [("channel", .text "email"), ("from", .ofText? p.sender), ("subject", .ofText? p.subject),
        ("to", Value.texts p.recipients)])) := by
  obtain ⟨sender, recipients, cc, bcc, subject, body⟩ := p
  cases cc <;> cases bcc <;>
    simp (disch := decide) [toJson, unlessEmpty, Value.asMaps, Value.membersAsMaps,
      Value.asMaps_texts, Value.asMaps_ofText?, Entries.ofList, Entries.insert_nil,
      Entries.insert_of_lt, Entries.insert_of_gt, Channel.name]

theorem decode_asMaps (p : EmailPayload) : decode p.toJson.asMaps = .ok p := by
  rw [asMaps_toJson]
  obtain ⟨sender, recipients, cc, bcc, subject, body⟩ := p
  have final (s : String) : Decode.text (.text s) = .ok s := rfl
  cases cc <;> cases bcc <;>
    simp [decode, Decode.record, Decode.members, Decode.field, final, Decode.list_texts,
      Decode.optional_ofText?, unlessEmpty, Except.map, bind, Except.bind]

end EmailPayload

/-! ## Payloads and their texts -/

theorem exact_texts (ss : List String) : Exact (Value.texts ss) := by
  refine .list fun v hv => ?_
  obtain ⟨s, -, rfl⟩ := List.mem_map.1 hv
  exact .text s

theorem exact_ofText? : ∀ s : Option String, Exact (Value.ofText? s)
  | none => .null
  | some s => .text s

/-- Things that can be read back from the texts of their documents are equal if the texts are. -/
theorem Decode.write_inj {α : Type} {decode : Value → Except DecodeError α} {toJson : α → Value}
    {a b : α} (ha : (Json.read (toJson a).write).map decode = some (.ok a))
    (hb : (Json.read (toJson b).write).map decode = some (.ok b)) :
    (toJson a).write = (toJson b).write ↔ a = b := by
  constructor
  · intro same
    rw [same, hb] at ha
    exact (Except.ok.inj (Option.some.inj ha)).symm
  · rintro rfl
    rfl

/-- The codes of a wire address are bytes. -/
structure WireAddress.Coded (w : WireAddress) : Prop where
  ton : w.ton ≤ 255
  npi : w.npi ≤ 255

theorem PhoneNumber.coded_toWire : ∀ p : PhoneNumber, p.toWire.Coded
  | .raw _ => ⟨Nat.zero_le _, Nat.zero_le _⟩
  | .addressed ⟨_, type, plan⟩ => by
    constructor
    · show type.code ≤ 255
      cases type <;> decide
    · show plan.code ≤ 255
      cases plan <;> decide

theorem WireAddress.Coded.exact {w : WireAddress} (h : w.Coded) : Exact w.toJson := by
  obtain ⟨ton, npi⟩ := h
  refine .object ?_
  simp only [List.forall_mem_cons, List.not_mem_nil, false_imp_iff, implies_true, and_true]
  exact ⟨.text _, .int ⟨by omega, by omega⟩, .int ⟨by omega, by omega⟩⟩

namespace SmsPayload

variable {p p' : SmsPayload}

/-- The codes of all addresses are bytes. -/
structure Coded (p : SmsPayload) : Prop where
  sender : ∀ w ∈ p.sender, w.Coded
  recipients : ∀ w ∈ p.recipients, w.Coded

theorem Coded.exact (h : p.Coded) : Exact p.toJson := by
  have sender : Exact (match p.sender with
      | some w => w.toJson
      | none => .null) := by
    split
    · rename_i w set
      exact (h.sender w set).exact
    · exact .null
  have recipients : Exact (.list (p.recipients.map (·.toJson))) := by
    refine .list fun v hv => ?_
    obtain ⟨w, hw, rfl⟩ := List.mem_map.1 hv
    exact (h.recipients w hw).exact
  refine .object ?_
  simp only [List.forall_mem_cons, List.not_mem_nil, false_imp_iff, implies_true, and_true]
  exact ⟨.text _, sender, recipients, .text _⟩

theorem decode_read_write (h : p.Coded) : (Json.read p.toJson.write).map decode = some (.ok p) := by
  rw [Json.read_write h.exact, Option.map_some, decode_asMaps]

theorem write_inj (h : p.Coded) (h' : p'.Coded) : p.toJson.write = p'.toJson.write ↔ p = p' :=
  Decode.write_inj (decode_read_write h) (decode_read_write h')

end SmsPayload

theorem Sms.coded_payload (m : Sms) (text : String) :
    SmsPayload.Coded ⟨m.sender.map (·.toWire), m.recipients.map (·.toWire), text⟩ := by
  constructor
  · intro w hw
    obtain ⟨p, -, rfl⟩ := Option.map_eq_some_iff.1 hw
    exact p.coded_toWire
  · intro w hw
    obtain ⟨p, -, rfl⟩ := List.mem_map.1 hw
    exact p.coded_toWire

namespace EmailPayload

theorem exact (p : EmailPayload) : Exact p.toJson := by
  have copies (name : String) (items : List String) :
      ∀ m ∈ unlessEmpty name items, Exact m.2 := by
    intro m hm
    rw [unlessEmpty] at hm
    split at hm
    · cases hm
    · rw [List.mem_singleton.1 hm]
      exact exact_texts items
  refine .object ?_
  simp only [List.forall_mem_append, List.forall_mem_cons, List.not_mem_nil, false_imp_iff,
    implies_true, and_true]
  exact ⟨⟨⟨⟨.text _, exact_ofText? _, exact_texts _⟩, copies _ _⟩, copies _ _⟩, exact_ofText? _,
    .text _⟩

theorem decode_read_write (p : EmailPayload) :
    (Json.read p.toJson.write).map decode = some (.ok p) := by
  rw [Json.read_write p.exact, Option.map_some, decode_asMaps]

theorem write_inj {p p' : EmailPayload} : p.toJson.write = p'.toJson.write ↔ p = p' :=
  Decode.write_inj p.decode_read_write p'.decode_read_write

end EmailPayload

/-! ## Requests -/

theorem Http.Network.body_of_post {network : Http.Network} {url : Url} {token : Option String}
    {body : String} {r : Http.Request} (h : (network.post url token body).request = some r) :
    r.body = body := by
  simp only [post] at h
  -- Most ends of a post have no request; the others have the one that was made of the body.
  repeat' split at h
  all_goals cases h
  all_goals rfl

namespace Webhook

/-- What goes out for a message: the text of its payload is the body of every request. -/
structure Posts {M : Type} [Deliverable M] (w : Webhook) (m : M) (body : String) : Prop where
  payload : Deliverable.payloadText w.name m = .ok body
  requests : ∀ network r, Effect.request r ∈ ((w.transport network).deliver m).effects →
    r.body = body

theorem request_of_post {w : Webhook} {network : Http.Network} {body : String} {r : Http.Request}
    (h : Effect.request r ∈ (w.post network body).effects) :
    (network.post w.url w.token body).request = some r := by
  have sent (h : Effect.request r
      ∈ (network.post w.url w.token body).request.toList.map Effect.request) :
      (network.post w.url w.token body).request = some r := by
    obtain ⟨r', hr, same⟩ := List.mem_map.1 h
    cases same
    exact Option.mem_toList.1 hr
  rw [post] at h
  split at h
  · exact sent h
  · split at h
    · exact sent h
    · refine sent ((List.mem_append.1 h).resolve_right fun logged => ?_)
      cases List.mem_singleton.1 logged

theorem posts_of_payload {M : Type} [Deliverable M] {w : Webhook} {m : M} {body : String}
    (h : Deliverable.payloadText w.name m = .ok body) : w.Posts m body := by
  refine ⟨h, fun network r hr => ?_⟩
  simp only [transport, h] at hr
  exact Http.Network.body_of_post (request_of_post hr)

theorem posts_email (w : Webhook) {m : Email} {text : String} (h : m.content = .text text) :
    w.Posts m (EmailPayload.toJson
      ⟨m.sender, m.recipients, m.cc, m.bcc, m.subject, text⟩).write := by
  apply posts_of_payload
  show (m.payload w.name).map _ = _
  rw [Email.payload, h]
  rfl

theorem posts_sms (w : Webhook) {m : Sms} {text : String} (h : m.content = .text text) :
    w.Posts m (SmsPayload.toJson
      ⟨m.sender.map (·.toWire), m.recipients.map (·.toWire), text⟩).write := by
  apply posts_of_payload
  show (m.payload w.name).map _ = _
  rw [Sms.payload, h]
  rfl

/-- Webhooks post equal bodies for two letters with final texts exactly if all fields and the texts
of the letters are equal; for two texts, exactly if their senders and recipients are the same on the
wire, in their order, and so are the texts. -/
theorem tells_apart (w w' : Webhook) :
    (∀ (m m' : Email) (text text' : String), m.content = .text text → m'.content = .text text' →
      ∃ body body', w.Posts m body ∧ w'.Posts m' body' ∧
        (body = body' ↔ m.sender = m'.sender ∧ m.recipients = m'.recipients ∧ m.cc = m'.cc
          ∧ m.bcc = m'.bcc ∧ m.subject = m'.subject ∧ text = text'))
    ∧ ∀ (m m' : Sms) (text text' : String), m.content = .text text → m'.content = .text text' →
      ∃ body body', w.Posts m body ∧ w'.Posts m' body' ∧
        (body = body' ↔ m.sender.map (·.toWire) = m'.sender.map (·.toWire)
          ∧ m.recipients.map (·.toWire) = m'.recipients.map (·.toWire) ∧ text = text') := by
  constructor
  · intro m m' text text' final final'
    refine ⟨_, _, w.posts_email final, w'.posts_email final', ?_⟩
    rw [EmailPayload.write_inj, EmailPayload.mk.injEq]
  · intro m m' text text' final final'
    refine ⟨_, _, w.posts_sms final, w'.posts_sms final', ?_⟩
    rw [SmsPayload.write_inj (m.coded_payload text) (m'.coded_payload text'), SmsPayload.mk.injEq]

/-- A letter without a subject is not taken for one whose subject is the word null; but a raw number
is taken for an address of which nothing is known. -/
theorem tells_apart_unset :
    let w : Webhook :=
      ⟨"gateway", ⟨"http", "", none, some (.name "localhost"), none, .parts ["in"], none, none⟩,
        none⟩
    let w' : Webhook := { w with name := "spare", token := some "rose" }
    let untitled : Email := ⟨.text "hi", none, none, ["a@b.org"], [], []⟩
    let titled : Email := { untitled with subject := some "null" }
    let raw : Sms := ⟨.text "hi", none, [.raw "0171"]⟩
    let addressed : Sms := ⟨.text "hi", none, [.addressed ⟨"0171", .unknown, .unknown⟩]⟩
    (∃ body body', w.Posts untitled body ∧ w'.Posts titled body' ∧ body ≠ body')
      ∧ ∃ body, w.Posts raw body ∧ w'.Posts addressed body := by
  intro w w' untitled titled raw addressed
  obtain ⟨letters, texts⟩ := tells_apart w w'
  constructor
  · obtain ⟨body, body', posts, posts', same⟩ := letters untitled titled "hi" "hi" rfl rfl
    refine ⟨body, body', posts, posts', fun h => ?_⟩
    obtain ⟨-, -, -, -, subject, -⟩ := same.1 h
    cases subject
  · obtain ⟨body, body', posts, posts', same⟩ := texts raw addressed "hi" "hi" rfl rfl
    obtain rfl := same.2 ⟨rfl, rfl, rfl⟩
    exact ⟨body, posts, posts'⟩

end Webhook

end Courier

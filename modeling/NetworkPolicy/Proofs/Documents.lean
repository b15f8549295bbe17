import NetworkPolicy.Access
import NetworkPolicy.Proofs.Payloads
import NetworkPolicy.Settings

namespace NetworkPolicy

open Json Json.Codec

namespace Json.Codec

theorem legible_uint16 : uint16.Legible :=
  legible_integer "u16" (fun a => by simp) fun a => by
    have hlt : a.toNat < 2 ^ 16 := a.toNat_lt
    omega

theorem legible_uint32 : uint32.Legible :=
  legible_integer "u32" (fun a => by simp) fun a => by
    have hlt : a.toNat < 2 ^ 32 := a.toNat_lt
    omega

end Json.Codec

namespace Payload

theorem Tag.legible : Tag.record.codec.Legible :=
  Record.legible (by decide) fun _ => ⟨_, .cons (steps_required legible_text)
    (.cons (steps_required legible_text) (.cons (steps_required legible_text) .nil)), rfl⟩

theorem Tags.legible : Tags.record.codec.Legible :=
  Record.legible (by decide) fun _ => ⟨_, .cons (steps_required Tag.legible.list) .nil, rfl⟩

theorem EgressSource.legible : EgressSource.record.codec.Legible :=
  Record.legible (by decide) fun s => ⟨_, .cons (steps_required legible_text)
    (.cons (steps_sparse legible_text) .nil), by
      obtain ⟨id, type⟩ := s
      by_cases htype : type.isEmpty = true <;> simp_all [EgressSource.record]⟩

theorem EgressDestination.legible : EgressDestination.record.codec.Legible :=
  Record.legible (by decide) fun _ => ⟨_, .cons (steps_required legible_text)
    (.cons (steps_defaulted AddressRange.legible.list) .nil), rfl⟩

theorem EgressPolicy.legible : EgressPolicy.record.codec.Legible :=
  Record.legible (by decide) fun _ => ⟨_, .cons (steps_required EgressSource.legible)
    (.cons (steps_required EgressDestination.legible) .nil), rfl⟩

end Payload

namespace Access

theorem Token.legible : Token.record.codec.Legible :=
  Record.legible (by decide) fun _ => ⟨_, .cons (steps_required legible_text)
    (.cons (steps_defaulted legible_text.list) .nil), rfl⟩

theorem Space.legible : Space.record.codec.Legible :=
  Record.legible (by decide) fun _ => ⟨_, .cons (steps_required legible_text)
    (.cons (steps_required legible_text) .nil), rfl⟩

end Access

theorem Ports.legible : Ports.record.codec.Legible :=
  Record.legible (by decide) fun _ => ⟨_, .cons (steps_required legible_uint16)
    (.cons (steps_required legible_uint16) .nil), rfl⟩

theorem AddressRange.legible : AddressRange.record.codec.Legible :=
  Record.legible (by decide) fun _ => ⟨_, .cons (steps_required legible_text)
    (.cons (steps_required legible_text) .nil), rfl⟩

theorem Source.legible : Source.record.codec.Legible :=
  Record.legible (by decide) fun _ => ⟨_, .cons (steps_required legible_text)
    (.cons (steps_required legible_text) (.cons (steps_required legible_text) .nil)), rfl⟩

theorem Destination.legible : Destination.record.codec.Legible :=
  Record.legible (by decide) fun _ => ⟨_, .cons (steps_required legible_text)
    (.cons (steps_required legible_text) (.cons (steps_required legible_text)
    (.cons (steps_required legible_uint16) (.cons (steps_required Ports.legible)
    (.cons (steps_required legible_text)
    (.cons (steps_required AddressRange.legible.list) .nil)))))), rfl⟩

theorem Policy.legible : Policy.record.codec.Legible :=
  Record.legible (by decide) fun _ => ⟨_, .cons (steps_required Source.legible)
    (.cons (steps_required Destination.legible) .nil), rfl⟩

theorem Tag.legible : Tag.record.codec.Legible :=
  Record.legible (by decide) fun _ => ⟨_, .cons (steps_required legible_text)
    (.cons (steps_required legible_text) (.cons (steps_required legible_text) .nil)), rfl⟩

theorem Sql.Dialect.legible : Sql.Dialect.codec.Legible :=
  legible_choice fun d => by cases d <;> decide

theorem DatabaseSettings.legible : DatabaseSettings.record.codec.Legible :=
  Record.legible (by decide) fun _ => ⟨_, .cons (steps_defaulted Sql.Dialect.legible)
    (.cons (steps_defaulted legible_text) (.cons (steps_defaulted legible_uint32)
    (.cons (steps_defaulted legible_uint32)
    (.cons (steps_defaulted (legible_uint64 "u64")) .nil)))), rfl⟩

theorem Settings.legible : Settings.record.codec.Legible :=
  Record.legible (by decide) fun _ => ⟨_, .cons (steps_defaulted (legible_uint64 "usize"))
    (.cons (steps_defaulted DatabaseSettings.legible) .nil), rfl⟩

theorem Settings.load_of_parse {text : String} {s : Settings} (h : record.codec.parse text = .ok s) :
    load (some text.toUTF8) = .ok s := by
  have hdecoded : String.fromUTF8? text.toUTF8 = some text := dif_pos text.isValidUTF8
  simp only [load, hdecoded, h]
  rfl

theorem Settings.load_save (s : Settings) :
    ∃ file, s.save true = .ok file ∧ load (some file.toUTF8) = .ok s := by
  refine ⟨_, if_pos rfl, load_of_parse (Settings.legible.parse ?_)⟩
  rw [indented, String.toList_ofList]
  exact laidOut_indentedChars _ _

/-- The kinds of documents. Those that are stored differ in form from those that are sent. -/
inductive Document where
  | policies | policy | source | destination | ports | range | tag | tags
  | egressPolicy | egressSource | egressDestination
  | token | space
  | storedPolicy | storedSource | storedDestination | storedPorts | storedRange | storedTag
  | settings | database | dialect
  deriving DecidableEq, Inhabited

namespace Document

def Value : Document → Type
  | policies => Payload.Policies
  | policy => Payload.Policy
  | source => Payload.Source
  | destination => Payload.Destination
  | ports => Payload.Ports
  | range => Payload.AddressRange
  | tag => Payload.Tag
  | tags => Payload.Tags
  | egressPolicy => Payload.EgressPolicy
  | egressSource => Payload.EgressSource
  | egressDestination => Payload.EgressDestination
  | token => Access.Token
  | space => Access.Space
  | storedPolicy => Policy
  | storedSource => Source
  | storedDestination => Destination
  | storedPorts => Ports
  | storedRange => AddressRange
  | storedTag => Tag
  | settings => Settings
  | database => DatabaseSettings
  | dialect => Sql.Dialect

def codec : (d : Document) → Codec d.Value
  | policies => Payload.Policies.record.codec
  | policy => Payload.Policy.record.codec
  | source => Payload.Source.record.codec
  | destination => Payload.Destination.record.codec
  | ports => Payload.Ports.record.codec
  | range => Payload.AddressRange.record.codec
  | tag => Payload.Tag.record.codec
  | tags => Payload.Tags.record.codec
  | egressPolicy => Payload.EgressPolicy.record.codec
  | egressSource => Payload.EgressSource.record.codec
  | egressDestination => Payload.EgressDestination.record.codec
  | token => Access.Token.record.codec
  | space => Access.Space.record.codec
  | storedPolicy => Policy.record.codec
  | storedSource => Source.record.codec
  | storedDestination => Destination.record.codec
  | storedPorts => Ports.record.codec
  | storedRange => AddressRange.record.codec
  | storedTag => Tag.record.codec
  | settings => Settings.record.codec
  | database => DatabaseSettings.record.codec
  | dialect => Sql.Dialect.codec

theorem legible (d : Document) : d.codec.Legible := by
  cases d with
  | policies => exact Payload.Policies.legible
  | policy => exact Payload.Policy.legible
  | source => exact Payload.Source.legible
  | destination => exact Payload.Destination.legible
  | ports => exact Payload.Ports.legible
  | range => exact Payload.AddressRange.legible
  | tag => exact Payload.Tag.legible
  | tags => exact Payload.Tags.legible
  | egressPolicy => exact Payload.EgressPolicy.legible
  | egressSource => exact Payload.EgressSource.legible
  | egressDestination => exact Payload.EgressDestination.legible
  | token => exact Access.Token.legible
  | space => exact Access.Space.legible
  | storedPolicy => exact Policy.legible
  | storedSource => exact Source.legible
  | storedDestination => exact Destination.legible
  | storedPorts => exact Ports.legible
  | storedRange => exact AddressRange.legible
  | storedTag => exact Tag.legible
  | settings => exact Settings.legible
  | database => exact DatabaseSettings.legible
  | dialect => exact Sql.Dialect.legible

end Document

namespace Json.Codec

variable {α : Type}

/-- The text is parsed, and what it says is printed. -/
def reprint (c : Codec α) (s : String) : Except Error String :=
  (c.parse s).map c.print

def reprintBytes (c : Codec α) (bytes : ByteArray) : Except Error String :=
  (c.parseBytes bytes).map c.print

/-- What is printed is parsed as the value that it was printed of, and an accepted text that was
printed again stays as it is from then on. -/
structure RoundTrips (c : Codec α) : Prop where
  parse_print (a : α) : c.parse (c.print a) = .ok a
  parseBytes_print (a : α) : c.parseBytes (c.print a).toUTF8 = .ok a
  reprint_reprint (s : String) : (c.reprint s).bind c.reprint = c.reprint s
  reprint_reprintBytes (bytes : ByteArray) :
    (c.reprintBytes bytes).bind c.reprint = c.reprintBytes bytes

variable {c : Codec α}

theorem Faithful.reprint_print (hc : c.Faithful) (parsed : Except Error α) :
    (parsed.map c.print).bind c.reprint = parsed.map c.print := by
  cases parsed with
  | error e => rfl
  | ok a =>
    show (c.parse (c.print a)).map c.print = .ok (c.print a)
    rw [hc.parse_print]
    rfl

theorem Legible.roundTrips (hc : c.Legible) : c.RoundTrips where
  parse_print := hc.faithful.parse_print
  parseBytes_print := hc.faithful.parseBytes_print
  reprint_reprint s := hc.faithful.reprint_print (c.parse s)
  reprint_reprintBytes bytes := hc.faithful.reprint_print (c.parseBytes bytes)

end Json.Codec

/-- Documents of every kind are read back from what is written of them, and settings are loaded from
the file that was saved of them. -/
theorem Document.written_comes_back :
    (∀ d : Document, d.codec.RoundTrips) ∧
      ∀ s : Settings, ∃ file, s.save true = .ok file ∧ Settings.load (some file.toUTF8) = .ok s :=
  ⟨fun d => d.legible.roundTrips, Settings.load_save⟩

/-- A list of the fields is accepted too, and printed as an object. -/
example : (Document.source.codec.reprint " [\"a\", \"\"]").toOption =
    some "\x7b\"id\":\"a\"\x7d" := by
  decide +kernel

end NetworkPolicy

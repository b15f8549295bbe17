import NetworkPolicy.Proofs.Documents
import NetworkPolicy.Proofs.Json.Lenient

namespace NetworkPolicy

open Json Json.Turn
open Json.Codec (legible_int64 legible_uint32 legible_uint64)

namespace Payload

def Ports.wording : Wording Ports :=
  .object [
    .usual "start" (.integer Int64.toInt) first 0,
    .usual "end" (.integer Int64.toInt) last 0]

def AddressRange.wording : Wording AddressRange :=
  .object [.usual "start" .text first "", .usual "end" .text last ""]

def Source.wording : Wording Source :=
  .object [.usual "id" .text id "", .usual "tag" .text tag "", .usual "type" .text type ""]

def Destination.wording : Wording Destination :=
  .object [
    .usual "id" .text id "",
    .usual "tag" .text tag "",
    .usual "type" .text type "",
    .usual "protocol" .text protocol "",
    .usual "ports" Ports.wording ports {},
    .usual "ips" (.list AddressRange.wording) ranges []]

def Policy.wording : Wording Policy :=
  .object [
    .usual "source" Source.wording source {},
    .usual "destination" Destination.wording destination {}]

/-- The texts of policies in which members are left out, at any depth. -/
def Policies.wording : Wording Policies :=
  .object [
    .usual "total_policies" (.integer fun n => n.toNat) total 0,
    .usual "policies" (.list Policy.wording) policies []]

theorem Ports.understands : Ports.record.codec.Understands Ports.wording :=
  Record.readsAs (by decide) fun _ => ⟨_,
    .cons (fits_defaulted (understands_integer legible_int64) rfl)
      (.cons (fits_defaulted (understands_integer legible_int64) rfl) .nil),
    by simp [Apart], rfl⟩

theorem AddressRange.understands : AddressRange.record.codec.Understands AddressRange.wording :=
  Record.readsAs (by decide) fun _ => ⟨_,
    .cons (fits_defaulted understands_text rfl) (.cons (fits_defaulted understands_text rfl) .nil),
    by simp [Apart], rfl⟩

theorem Source.understands : Source.record.codec.Understands Source.wording :=
  Record.readsAs (by decide) fun _ => ⟨_,
    .cons (fits_defaulted understands_text rfl)
      (.cons (fits_sparse understands_text rfl) (.cons (fits_sparse understands_text rfl) .nil)),
    by simp [Apart], rfl⟩

theorem Destination.understands : Destination.record.codec.Understands Destination.wording :=
  Record.readsAs (by decide) fun _ => ⟨_,
    .cons (fits_defaulted understands_text rfl)
      (.cons (fits_sparse understands_text rfl) (.cons (fits_sparse understands_text rfl)
      (.cons (fits_defaulted understands_text rfl) (.cons (fits_defaulted Ports.understands rfl)
      (.cons (fits_sparse (understands_list AddressRange.understands) rfl) .nil))))),
    by simp [Apart], rfl⟩

theorem Policy.understands : Policy.record.codec.Understands Policy.wording :=
  Record.readsAs (by decide) fun _ => ⟨_,
    .cons (fits_defaulted Source.understands rfl)
      (.cons (fits_defaulted Destination.understands rfl) .nil),
    by simp [Apart], rfl⟩

theorem Policies.understands : Policies.record.codec.Understands Policies.wording :=
  Record.readsAs (by decide) fun _ => ⟨_,
    .cons (fits_defaulted (understands_integer (legible_uint64 "usize")) rfl)
      (.cons (fits_defaulted (understands_list Policy.understands) rfl) .nil),
    by simp [Apart], rfl⟩

theorem Ports.words : Ports.record.codec.Words Ports.wording :=
  Record.words fun _ =>
    .cons (writtenBy_defaulted words_integer) (.cons (writtenBy_defaulted words_integer) .nil)

theorem AddressRange.words : AddressRange.record.codec.Words AddressRange.wording :=
  Record.words fun _ =>
    .cons (writtenBy_defaulted words_text) (.cons (writtenBy_defaulted words_text) .nil)

theorem Source.words : Source.record.codec.Words Source.wording :=
  Record.words fun _ => .cons (writtenBy_defaulted words_text)
    (.cons (writtenBy_sparse words_text fun _ => String.isEmpty_iff.1)
    (.cons (writtenBy_sparse words_text fun _ => String.isEmpty_iff.1) .nil))

theorem Destination.words : Destination.record.codec.Words Destination.wording :=
  Record.words fun _ => .cons (writtenBy_defaulted words_text)
    (.cons (writtenBy_sparse words_text fun _ => String.isEmpty_iff.1)
    (.cons (writtenBy_sparse words_text fun _ => String.isEmpty_iff.1)
    (.cons (writtenBy_defaulted words_text) (.cons (writtenBy_defaulted Ports.words)
    (.cons (writtenBy_sparse (words_list AddressRange.words) fun _ => List.isEmpty_iff.1) .nil)))))

theorem Policy.words : Policy.record.codec.Words Policy.wording :=
  Record.words fun _ =>
    .cons (writtenBy_defaulted Source.words) (.cons (writtenBy_defaulted Destination.words) .nil)

theorem Policies.words : Policies.record.codec.Words Policies.wording :=
  Record.words fun _ => .cons (writtenBy_defaulted words_integer)
    (.cons (writtenBy_defaulted (words_list Policy.words)) .nil)

theorem Policies.whole_print (policies : Policies) :
    Policies.wording.Whole policies (Policies.record.codec.print policies) :=
  Policies.words.whole_print policies

end Payload

/-- The members of database settings that are given. -/
structure DatabaseSettings.Given where
  dialect : Option Sql.Dialect := none
  url : Option String := none
  openConnections : Option UInt32 := none
  idleConnections : Option UInt32 := none
  timeout : Option UInt64 := none

/-- The usual settings, but for what is given. -/
def DatabaseSettings.Given.settings (g : Given) : DatabaseSettings :=
  let usual : DatabaseSettings := {}
  { dialect := g.dialect.getD usual.dialect
    url := g.url.getD usual.url
    openConnections := g.openConnections.getD usual.openConnections
    idleConnections := g.idleConnections.getD usual.idleConnections
    timeout := g.timeout.getD usual.timeout }

def DatabaseSettings.Given.wording : Wording DatabaseSettings.Given :=
  .object [
    .given "dialect" (.name Sql.Dialect.name) dialect,
    .given "url" .text url,
    .given "max_open_connections" (.integer fun n => n.toNat) openConnections,
    .given "max_idle_connections" (.integer fun n => n.toNat) idleConnections,
    .given "connect_timeout_secs" (.integer fun n => n.toNat) timeout]

structure Settings.Given where
  tagLength : Option UInt64 := none
  database : Option DatabaseSettings.Given := none

def Settings.Given.settings (g : Given) : Settings :=
  let usual : Settings := {}
  { tagLength := g.tagLength.getD usual.tagLength
    database := (g.database.map (·.settings)).getD usual.database }

def Settings.Given.wording : Wording Settings.Given :=
  .object [
    .given "tag_length" (.integer fun n => n.toNat) tagLength,
    .given "database" DatabaseSettings.Given.wording database]

theorem Sql.Dialect.understands :
    Sql.Dialect.codec.Understands (Wording.name Sql.Dialect.name) :=
  understands_choice fun d => by cases d <;> decide

theorem DatabaseSettings.understands : DatabaseSettings.record.codec.ReadsAs
    DatabaseSettings.Given.wording DatabaseSettings.Given.settings :=
  Record.readsAs (by decide) fun _ => ⟨_,
    .cons (fits_given Sql.Dialect.understands fun _ => rfl)
      (.cons (fits_given understands_text fun _ => rfl)
      (.cons (fits_given (understands_integer legible_uint32) fun _ => rfl)
      (.cons (fits_given (understands_integer legible_uint32) fun _ => rfl)
      (.cons (fits_given (understands_integer (legible_uint64 "u64")) fun _ => rfl) .nil)))),
    by simp [Apart], by
      simp only [run, List.foldl_cons, List.foldl_nil, Option.map_id_fun, id]
      rfl⟩

theorem Settings.understands :
    Settings.record.codec.ReadsAs Settings.Given.wording Settings.Given.settings :=
  Record.readsAs (by decide) fun _ => ⟨_,
    .cons (fits_given (understands_integer (legible_uint64 "usize")) fun _ => rfl)
      (.cons (fits_given DatabaseSettings.understands fun _ => rfl) .nil),
    by simp [Apart], by
      simp only [run, List.foldl_cons, List.foldl_nil, Option.map_id_fun, id]
      rfl⟩

/-- However a request says its policies, they are what is parsed; and settings are the usual ones,
but for what is given of them, at both levels. -/
theorem what_is_left_out_is_usual :
    (∀ (policies : Payload.Policies) (text : String),
      Payload.Policies.wording.Whole policies text →
        Payload.Policies.record.codec.parse text = .ok policies ∧
          Payload.Policies.record.codec.parseBytes text.toUTF8 = .ok policies) ∧
    ∀ (given : Settings.Given) (text : String), Settings.Given.wording.Whole given text →
      Settings.record.codec.parse text = .ok given.settings ∧
        Settings.load (some text.toUTF8) = .ok given.settings := by
  constructor
  · intro policies text htext
    exact ⟨Payload.Policies.understands.parse htext, Payload.Policies.understands.parseBytes htext⟩
  · intro given text htext
    have hparsed := Settings.understands.parse htext
    exact ⟨hparsed, Settings.load_of_parse hparsed⟩

section Curt

def curt : Payload.Policies where
  policies := [{ source := { id := "a" }, destination := { ports := { first := 80, last := 90 } } }]

/-- A policy without most of its members, told in another order than usual and behind a member that
nobody knows. -/
def curtText : String :=
  " \x7b\"version\":[null],\"policies\":[\x7b\"destination\":\x7b\"ports\":\x7b\"end\":90,"
    ++ "\"start\":80\x7d\x7d,\"source\":\x7b\"id\":\"a\"\x7d\x7d]\x7d"

def curtSettings : Settings.Given where
  database := some { url := some "mysql://db" }

def curtSettingsText : String :=
  "\x7b\"database\":\x7b\"url\":\"mysql://db\"\x7d\x7d"

theorem whole_curt : Payload.Policies.wording.Whole curt curtText := by
  have hports : Payload.Ports.wording ⟨80, 90⟩ _ :=
    .intro (.member [_] (.compact "end" rfl) (.member [] (.compact "start" rfl) (.nil (by simp))))
      (parts_compact _ _)
  have hdestination : Payload.Destination.wording { ports := ⟨80, 90⟩ } _ :=
    .intro (.member [_, _, _, _] (.compact "ports" hports) (.nil (by simp [Member.usual])))
      (parts_compact _ _)
  have hsource : Payload.Source.wording { id := "a" } _ :=
    .intro (.member [] (.compact "id" (spelled_quoted "a")) (.nil (by simp [Member.usual])))
      (parts_compact _ _)
  have hpolicy : Payload.Policy.wording ⟨{ id := "a" }, { ports := ⟨80, 90⟩ }⟩ _ :=
    .intro (.member [_] (.compact "destination" hdestination)
      (.member [] (.compact "source" hsource) (.nil (by simp))))
      (parts_compact _ _)
  have hpolicies : (Wording.list Payload.Policy.wording) curt.policies _ :=
    .intro (.cons hpolicy .nil) (parts_compact _ _)
  have hunknown : WellFormed _ :=
    .array (List.forall_mem_singleton.2 .null) (parts_compact _ _)
  have hwhole : Payload.Policies.wording curt _ :=
    .intro (.other (by decide) (.compact "version" hunknown)
      (.member [_] (.compact "policies" hpolicies) (.nil (by simp [Member.usual, curt]))))
      (parts_compact _ _)
  exact ⟨[' '], _, [], by simp [Blank, Text.Symbol.isBlank], blank_nil, hwhole, by decide +kernel⟩

theorem whole_curtSettings : Settings.Given.wording.Whole curtSettings curtSettingsText := by
  have hdatabase : DatabaseSettings.Given.wording { url := some "mysql://db" } _ :=
    .intro (.member [_] (.compact "url" ⟨_, rfl, spelled_quoted _⟩) (.nil (by simp [Member.given])))
      (parts_compact _ _)
  have hwhole : Settings.Given.wording curtSettings _ :=
    .intro (.member [_] (.compact "database" ⟨_, rfl, hdatabase⟩)
      (.nil (by simp [Member.given, curtSettings])))
      (parts_compact _ _)
  exact ⟨[], _, [], blank_nil, blank_nil, hwhole, by decide +kernel⟩

theorem what_is_left_out_is_usual_when_curt :
    (Payload.Policies.wording.Whole curt curtText ∧
        Settings.Given.wording.Whole curtSettings curtSettingsText) ∧
      Payload.Policies.record.codec.parse curtText = .ok curt ∧
      Settings.load (some curtSettingsText.toUTF8) =
        .ok { database := { url := "mysql://db" } } := by
  obtain ⟨hpolicies, hsettings⟩ := what_is_left_out_is_usual
  exact ⟨⟨whole_curt, whole_curtSettings⟩, (hpolicies curt curtText whole_curt).1,
    (hsettings curtSettings curtSettingsText whole_curtSettings).2⟩

end Curt

end NetworkPolicy

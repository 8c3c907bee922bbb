import BraceScript.Config.Load
import BraceScript.Proofs.Host
import BraceScript.Proofs.Json.Digits
import BraceScript.Proofs.Text.Utf8
import Mathlib

/-!
# Which configurations are loaded

`load_result` says what loading gives for every host: a configuration exactly if the bytes of the
configuration file are the UTF-8 form of an object with known keys and values of the right kind, and
then the one with these values. Everything else is an error that names the file, except for bytes
that are no UTF-8 and for integers with too many digits, which end a run with a failure.
-/

namespace BraceScript.Config

open JsonValue (IsJson RunsInto Members)
open Text (Points encodeUtf8 unifyBreaks)

/-! ## Objects -/

/-- A key has what is written for a value, or it is left out and the value is the usual one. -/
def Gives {α : Type} (members : Members) (key : String) (written : α → JsonValue)
    (usual value : α) : Prop :=
  match members.get? (Points.ofString key) with
  | none => value = usual
  | some j => j = written value

/-- An object has only known keys, and their values are those of a configuration. -/
structure Holds (members : Members) (c : Config) : Prop where
  known : ∀ m ∈ members, ∃ key ∈ knownKeys, m.1 = Points.ofString key
  references : Gives members referencesKey (fun ts => .list (ts.map .text))
    default.defaultReferences c.defaultReferences
  tempDir : Gives members tempDirKey (fun t => t.elim .null .text) default.tempDir c.tempDir
  encoding : Gives members encodingKey .text default.encoding c.encoding

theorem textOf_eq_ok_iff {path : List String} {j : JsonValue} {t : Points} :
    textOf path j = .ok t ↔ j = .text t := by
  cases j <;> simp [textOf]

theorem textsFrom_eq_ok_iff {path : List String} {place : Nat} {js : List JsonValue}
    {ts : List Points} : textsFrom path place js = .ok ts ↔ js = ts.map .text := by
  induction js generalizing place ts with
  | nil => cases ts <;> simp [textsFrom]
  | cons j js ih =>
    unfold textsFrom
    split
    · next t ts' hj hjs =>
      rw [textOf_eq_ok_iff] at hj
      rw [ih] at hjs
      subst hj hjs
      constructor
      · intro h
        cases h
        rfl
      · intro h
        cases ts with
        | nil => cases h
        | cons u us =>
          obtain ⟨hu, hus⟩ := List.cons.inj h
          rw [JsonValue.text.inj hu, List.map_injective_iff.mpr (fun _ _ => JsonValue.text.inj) hus]
    · next hno =>
      refine ⟨fun h => (by cases h), fun h => ?_⟩
      cases ts with
      | nil => cases h
      | cons u us =>
        obtain ⟨rfl, hus⟩ := List.cons.inj h
        exact (hno u us rfl (ih.mpr hus)).elim

theorem textsOf_eq_ok_iff {path : List String} {j : JsonValue} {ts : List Points} :
    textsOf path j = .ok ts ↔ j = .list (ts.map .text) := by
  cases j <;> simp [textsOf, textsFrom_eq_ok_iff]

theorem optionalTextOf_eq_ok_iff {path : List String} {j : JsonValue} {t : Option Points} :
    optionalTextOf path j = .ok t ↔ j = t.elim .null .text := by
  cases j <;> cases t <;> simp [optionalTextOf, textOf, Except.map]

theorem keyOf_eq_ok_iff {α : Type} {read : List String → JsonValue → Except (List Issue) α}
    {written : α → JsonValue} (hread : ∀ path j v, read path j = .ok v ↔ j = written v)
    {members : Members} {key : String} {usual value : α} :
    keyOf members key usual read = .ok value ↔ Gives members key written usual value := by
  unfold keyOf Gives
  cases members.get? (Points.ofString key) with
  | none => exact ⟨fun h => (Except.ok.inj h).symm, fun h => congrArg _ h.symm⟩
  | some j => exact hread _ _ _

theorem isKnown_iff {key : Points} :
    isKnown key ↔ ∃ k ∈ knownKeys, key = Points.ofString k := by
  unfold isKnown
  rw [List.any_eq_true]
  refine exists_congr fun k => and_congr_right fun _ => ?_
  rw [beq_iff_eq, eq_comm]

theorem unknownIssues_eq_nil_iff {members : Members} :
    unknownIssues members = [] ↔ ∀ m ∈ members, ∃ key ∈ knownKeys, m.1 = Points.ofString key := by
  simp [unknownIssues, isKnown_iff]

/-- The known keys are texts. -/
theorem badKey?_eq_none {members : Members}
    (h : ∀ m ∈ members, ∃ key ∈ knownKeys, m.1 = Points.ofString key) : badKey? members = none := by
  have htexts : ∀ key ∈ knownKeys, (Points.ofString key).hasSurrogate = false := by decide
  unfold badKey?
  rw [Option.map_eq_none_iff, List.find?_eq_none]
  intro m hm
  obtain ⟨key, hkey, heq⟩ := h m hm
  rw [heq, htexts key hkey]
  decide

/-- An object is a configuration if it holds one. -/
theorem ofMembers_eq_ok_iff {members : Members} {c : Config} :
    ofMembers members = .ok c ↔ Holds members c := by
  unfold ofMembers
  simp only
  constructor
  · intro h
    split at h
    · cases h
    · next r t e hbad hr ht he hunknown =>
      cases h
      exact ⟨unknownIssues_eq_nil_iff.mp hunknown,
        (keyOf_eq_ok_iff fun _ _ _ => textsOf_eq_ok_iff).mp hr,
        (keyOf_eq_ok_iff fun _ _ _ => optionalTextOf_eq_ok_iff).mp ht,
        (keyOf_eq_ok_iff fun _ _ _ => textOf_eq_ok_iff).mp he⟩
    · cases h
  · intro h
    rw [badKey?_eq_none h.known, unknownIssues_eq_nil_iff.mpr h.known,
      (keyOf_eq_ok_iff fun _ _ _ => textsOf_eq_ok_iff).mpr h.references,
      (keyOf_eq_ok_iff fun _ _ _ => optionalTextOf_eq_ok_iff).mpr h.tempDir,
      (keyOf_eq_ok_iff fun _ _ _ => textOf_eq_ok_iff).mpr h.encoding]

/-! ## Files -/

/-- The bytes of a file are the UTF-8 form of an object that holds a configuration. -/
def Describes (bytes : Files.Bytes) (c : Config) : Prop :=
  ∃ cs members, bytes = encodeUtf8 cs ∧ IsJson (unifyBreaks cs) (.object members) ∧ Holds members c

/-- The bytes of a file are the UTF-8 form of a text with an integer that has too many digits. -/
def IsHuge (bytes : Files.Bytes) (digits : Nat) : Prop :=
  ∃ cs, bytes = encodeUtf8 cs ∧ RunsInto digits (unifyBreaks cs)

/-- How a text that is no configuration ends: with an error, or with a failure. -/
theorem ofText_cases (path : String) (text : List Char) :
    (∃ j e, JsonValue.parse text = .error e ∧ e.fault = .digits j
        ∧ ofText path text = .error (.hugeNumber j))
      ∨ (∃ e, JsonValue.parse text = .error e ∧ (∀ n, e.fault ≠ .digits n)
        ∧ ofText path text = .ok (.error (.unreadable path e)))
      ∨ (∃ members, JsonValue.parse text = .ok (.object members)
        ∧ ofText path text = .ok ((ofMembers members).mapError (.invalid path)))
      ∨ ∃ j, JsonValue.parse text = .ok j ∧ (∀ members, j ≠ .object members)
        ∧ ofText path text = .ok (.error (.notObject path)) := by
  unfold ofText
  cases hparse : JsonValue.parse text with
  | error e =>
    simp only
    split
    · next n hfault => exact .inl ⟨n, e, rfl, hfault, rfl⟩
    · next hfault => exact .inr (.inl ⟨e, rfl, hfault, rfl⟩)
  | ok j =>
    cases j with
    | object members => exact .inr (.inr (.inl ⟨members, rfl, rfl⟩))
    | null | bool | int | float | text | list => exact .inr (.inr (.inr ⟨_, rfl, by simp, rfl⟩))

theorem ofText_eq_ok_iff {path : String} {text : List Char} {c : Config} :
    ofText path text = .ok (.ok c) ↔
      ∃ members, IsJson text (.object members) ∧ Holds members c := by
  simp only [← JsonValue.parse_eq_ok_iff, ← ofMembers_eq_ok_iff]
  rcases ofText_cases path text with ⟨n, e, hparse, -, htext⟩ | ⟨e, hparse, -, htext⟩ |
    ⟨members, hparse, htext⟩ | ⟨j, hparse, hno, htext⟩
  · simp [hparse, htext]
  · simp [hparse, htext]
  · rw [hparse, htext]
    constructor
    · intro h
      refine ⟨members, rfl, ?_⟩
      cases hmembers : ofMembers members with
      | error is =>
        rw [hmembers] at h
        cases h
      | ok c' =>
        rw [hmembers] at h
        exact congrArg _ (Except.ok.inj (Except.ok.inj h))
    · rintro ⟨members', hmembers', hc⟩
      obtain rfl := JsonValue.object.inj (Except.ok.inj hmembers')
      rw [hc]
      rfl
  · rw [hparse, htext]
    refine ⟨fun h => (by cases h), ?_⟩
    rintro ⟨members, hmembers, -⟩
    exact absurd (Except.ok.inj hmembers) (hno members)

theorem ofText_eq_error_iff {path : String} {text : List Char} {f : Failure} :
    ofText path text = .error f ↔ ∃ n, f = .hugeNumber n ∧ RunsInto n text := by
  simp only [← JsonValue.parse_digits_iff]
  rcases ofText_cases path text with ⟨n, e, hparse, hfault, htext⟩ | ⟨e, hparse, hfault, htext⟩ |
    ⟨members, hparse, htext⟩ | ⟨j, hparse, hno, htext⟩
  · rw [hparse, htext]
    constructor
    · intro h
      exact ⟨n, (Except.error.inj h).symm, e, rfl, hfault⟩
    · rintro ⟨m, rfl, e', he', hfault'⟩
      obtain rfl := Except.error.inj he'
      rw [JsonValue.Fault.digits.inj (hfault.symm.trans hfault')]
  · rw [hparse, htext]
    refine ⟨fun h => (by cases h), ?_⟩
    rintro ⟨m, -, e', he', hfault'⟩
    obtain rfl := Except.error.inj he'
    exact absurd hfault' (hfault m)
  · simp [hparse, htext]
  · simp [hparse, htext]

/-- An error about the text of a file names the file. -/
theorem message_of_ofText {path : String} {text : List Char} {e : LoadError}
    (h : ofText path text = .ok (.error e)) : ∃ reason, e.message = invalidFile path reason := by
  rcases ofText_cases path text with ⟨n, e', -, -, htext⟩ | ⟨e', -, -, htext⟩ |
    ⟨members, -, htext⟩ | ⟨j, -, -, htext⟩
  · rw [htext] at h
    cases h
  · rw [htext] at h
    cases h
    exact ⟨_, rfl⟩
  · rw [htext] at h
    cases hmembers : ofMembers members with
    | error is =>
      rw [hmembers] at h
      cases h
      exact ⟨_, rfl⟩
    | ok c =>
      rw [hmembers] at h
      cases h
  · rw [htext] at h
    cases h
    exact ⟨_, rfl⟩

/-- The bytes of a file give what its text gives, if they are a text. -/
theorem ofBytes_cases (path : String) (bytes : Files.Bytes) :
    (∃ cs, bytes = encodeUtf8 cs ∧ ofBytes path bytes = ofText path (unifyBreaks cs))
      ∨ (∀ cs, bytes ≠ encodeUtf8 cs) ∧ ∃ e, ofBytes path bytes = .error (.undecodable e) := by
  have hdecode (cs : List Char) :
      Text.Encoding.utf8.decode bytes = .ok cs ↔ bytes = encodeUtf8 cs :=
    Text.decodeUtf8_eq_ok_iff_encodeUtf8
  unfold ofBytes
  cases hbytes : Text.Encoding.utf8.decode bytes with
  | error e =>
    refine .inr ⟨fun cs hcs => ?_, e, rfl⟩
    rw [(hdecode cs).mpr hcs] at hbytes
    cases hbytes
  | ok cs => exact .inl ⟨cs, (hdecode cs).mp hbytes, rfl⟩

theorem encodeUtf8_injective {cs ds : List Char} (h : encodeUtf8 cs = encodeUtf8 ds) : cs = ds := by
  have hcs := Text.decodeUtf8_eq_ok_iff_encodeUtf8.mpr (rfl : encodeUtf8 cs = encodeUtf8 cs)
  exact Except.ok.inj (hcs.symm.trans (Text.decodeUtf8_eq_ok_iff_encodeUtf8.mpr h))

/-- What the bytes of a file give. -/
theorem ofBytes_spec (path : String) (bytes : Files.Bytes) :
    (∀ c, ofBytes path bytes = .ok (.ok c) ↔ Describes bytes c)
      ∧ (∀ n, ofBytes path bytes = .error (.hugeNumber n) ↔ IsHuge bytes n)
      ∧ ((∃ e, ofBytes path bytes = .error (.undecodable e)) ↔ ∀ cs, bytes ≠ encodeUtf8 cs)
      ∧ (∀ f, ofBytes path bytes = .error f → (∃ n, f = .hugeNumber n) ∨ ∃ e, f = .undecodable e)
      ∧ ∀ e, ofBytes path bytes = .ok (.error e) →
        ∃ reason, e.message = invalidFile path reason := by
  rcases ofBytes_cases path bytes with ⟨cs, rfl, htext⟩ | ⟨hno, e, hfailure⟩
  · rw [htext]
    refine ⟨fun c => ?_, fun n => ?_, ?_, fun f hf => ?_, fun e => message_of_ofText⟩
    · rw [ofText_eq_ok_iff]
      refine ⟨fun ⟨members, hjson, hc⟩ => ⟨cs, members, rfl, hjson, hc⟩, ?_⟩
      rintro ⟨ds, members, hds, hjson, hc⟩
      exact ⟨members, encodeUtf8_injective hds ▸ hjson, hc⟩
    · rw [ofText_eq_error_iff]
      constructor
      · rintro ⟨m, hm, hruns⟩
        exact ⟨cs, rfl, Failure.hugeNumber.inj hm ▸ hruns⟩
      · rintro ⟨ds, hds, hruns⟩
        exact ⟨n, rfl, encodeUtf8_injective hds ▸ hruns⟩
    · refine ⟨fun ⟨e, he⟩ => ?_, fun hno => absurd rfl (hno cs)⟩
      obtain ⟨n, hn, -⟩ := ofText_eq_error_iff.mp he
      cases hn
    · obtain ⟨n, hn, -⟩ := ofText_eq_error_iff.mp hf
      exact .inl ⟨n, hn⟩
  · rw [hfailure]
    refine ⟨fun c => ⟨fun h => (by cases h), ?_⟩, fun n => ⟨fun h => (by cases h), ?_⟩,
      ⟨fun _ => hno, fun _ => ⟨e, rfl⟩⟩, fun f hf => .inr ⟨e, (Except.error.inj hf).symm⟩,
      fun e he => (by cases he)⟩
    · rintro ⟨cs, members, hcs, -⟩
      exact absurd hcs (hno cs)
    · rintro ⟨cs, hcs, -⟩
      exact absurd hcs (hno cs)

/-! ## Hosts -/

/-- The bytes of the file that a path leads to. -/
def fileAt? (h : Host) (path : String) : Option Files.Bytes :=
  match h.find path with
  | .file bytes => some bytes
  | _ => none

/-- The configuration file with its path: the file that is named, or the first one of the usual
files that there is. -/
def chosen? (h : Host) : Option String → Option (String × Files.Bytes)
  | some path => (fileAt? h path).map (path, ·)
  | none => ((fileAt? h localPath).map (localPath, ·)).or
      ((fileAt? h (homePath h.home)).map (homePath h.home, ·))

/-- A file is read if there is one. -/
theorem loadFrom_of_some {path : String} {h : Host} {bytes : Files.Bytes}
    (hfile : fileAt? h path = some bytes) :
    (loadFrom path h).1 = (ofBytes path bytes).map some := by
  unfold fileAt? at hfile
  split at hfile
  · next content hfound =>
    cases hfile
    unfold loadFrom
    rw [Act.bind_of_ok (look_apply path h)]
    simp only [hfound]
    rw [Act.bind_of_ok (tell_apply _ _)]
    cases ofBytes path bytes <;> rfl
  · cases hfile

theorem loadFrom_of_none {path : String} {h : Host} (hfile : fileAt? h path = none) :
    ∃ h', loadFrom path h = (.ok none, h') ∧ h.Alike h' := by
  refine ⟨{ h with asked := path :: h.asked }, ?_, ⟨rfl, rfl, rfl, rfl⟩⟩
  unfold fileAt? at hfile
  unfold loadFrom
  rw [Act.bind_of_ok (look_apply path h)]
  cases hfound : h.find path with
  | file bytes =>
    rw [hfound] at hfile
    cases hfile
  | _ => rfl

/-- A file that there is decides, whatever is done when there is none. -/
theorem bind_loadFrom_of_some {path : String} {h : Host} {bytes : Files.Bytes}
    (hfile : fileAt? h path = some bytes)
    (f : Option (Except LoadError Config) → Act (Except LoadError Config))
    (hf : ∀ r, f (some r) = pure r) : ((loadFrom path >>= f) h).1 = ofBytes path bytes := by
  have hfst := loadFrom_of_some hfile
  rcases hloaded : loadFrom path h with ⟨r, h'⟩
  rw [hloaded] at hfst
  cases hbytes : ofBytes path bytes with
  | error e =>
    rw [hbytes] at hfst
    obtain rfl : r = .error e := hfst
    rw [Act.bind_of_error hloaded]
  | ok c =>
    rw [hbytes] at hfst
    obtain rfl : r = .ok (some c) := hfst
    rw [Act.bind_of_ok hloaded, hf]
    rfl

/-- Loading reads the chosen file, and nothing else. -/
theorem load_chosen (path? : Option String) (h : Host) :
    (load path? h).1 = match chosen? h path? with
      | some (path, bytes) => ofBytes path bytes
      | none => .ok (match path? with
        | some path => .error (.notFound path)
        | none => .ok .default) := by
  cases path? with
  | some path =>
    rw [load, chosen?]
    cases hfile : fileAt? h path with
    | some bytes => exact bind_loadFrom_of_some hfile _ fun _ => rfl
    | none =>
      obtain ⟨h', hloaded, -⟩ := loadFrom_of_none hfile
      rw [Act.bind_of_ok hloaded]
      rfl
  | none =>
    rw [load, chosen?]
    cases hlocal : fileAt? h localPath with
    | some bytes => exact bind_loadFrom_of_some hlocal _ fun _ => rfl
    | none =>
      obtain ⟨h', hloaded, halike⟩ := loadFrom_of_none hlocal
      rw [Act.bind_of_ok hloaded]
      simp only
      rw [Act.bind_of_ok (Act.get_apply h'), halike.home]
      have hsame : fileAt? h' (homePath h.home) = fileAt? h (homePath h.home) := by
        unfold fileAt?
        rw [halike.find]
      cases hhome : fileAt? h (homePath h.home) with
      | some bytes => exact bind_loadFrom_of_some (hsame.trans hhome) _ fun _ => rfl
      | none =>
        obtain ⟨h'', hloaded', -⟩ := loadFrom_of_none (hsame.trans hhome)
        rw [Act.bind_of_ok hloaded']
        simp only
        rw [Act.bind_of_ok (tell_apply _ _)]
        rfl

end BraceScript.Config

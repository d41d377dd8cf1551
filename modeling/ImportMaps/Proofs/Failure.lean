import ImportMaps.Failure
import ImportMaps.Proofs.Text.Bytes

/-!
# ImportMaps — failures and what their messages tell

A text is missing because its file has no bytes or because the bytes are not UTF-8
(`Contents.LacksText`), and a settings file must be settings in JSON besides. Both are
said here by the bytes, without the readers.

A message opens with words for the kind of failure, and behind them are the path as it was
given and the reason (`Failure.message_eq`). No kind's words begin with those of another
(`Failure.Kind.eq_of_isPrefix`), so that a message is never taken for one of another kind,
whatever the paths and the reasons are.

Main results:

* `Config.load_eq_ok_iff`, `Config.load_eq_error_iff` — when a settings file gives settings,
  and what it fails with otherwise.
* `Failure.kind_eq_of_message_eq` — the kind of a failure can be told from its message.
* `Failure.message_eq_message_iff` — and once the path is known, so can the reason.
-/

namespace ImportMaps

/-! ## Texts of files -/

theorem Contents.text_eq_ok_iff {c : Contents} {text : String} :
    c.text = .ok text ↔ c = .ok text.toByteArray := by
  cases c with
  | error fault => simp [Contents.text]
  | ok bytes =>
    rw [Contents.text, Except.ok.injEq, ← Text.fromUTF8?_eq_some_iff]
    cases String.fromUTF8? bytes <;> simp

/-- A file with bytes that are a text. -/
def Contents.IsReadable (c : Contents) : Prop :=
  ∃ bytes, c = .ok bytes ∧ bytes.IsValidUTF8

theorem Contents.isReadable_iff {c : Contents} : c.IsReadable ↔ ∃ text, c.text = .ok text := by
  cases c with
  | error fault => simp [IsReadable, Contents.text]
  | ok bytes =>
    by_cases h : bytes.IsValidUTF8
    · simp [IsReadable, Contents.text, String.fromUTF8?, h]
    · simp [IsReadable, Contents.text, String.fromUTF8?, h]

/-- Why a file has no text: there are no bytes, or they are no text. -/
inductive Contents.LacksText : Contents → ReadFault → Prop where
  | unread (fault : ReadFault) : LacksText (.error fault) fault
  | notText {bytes : ByteArray} (hbytes : ¬ bytes.IsValidUTF8) : LacksText (.ok bytes) .notText

theorem Contents.text_eq_error_iff {c : Contents} {fault : ReadFault} :
    c.text = .error fault ↔ c.LacksText fault := by
  constructor
  · intro h
    cases c with
    | error fault' =>
      obtain rfl : fault' = fault := Except.error.inj h
      exact .unread fault'
    | ok bytes =>
      by_cases hbytes : bytes.IsValidUTF8
      · simp [Contents.text, String.fromUTF8?, hbytes] at h
      · obtain rfl : ReadFault.notText = fault := by
          simpa [Contents.text, String.fromUTF8?, hbytes] using h
        exact .notText hbytes
  · intro h
    cases h with
    | unread => rfl
    | notText hbytes => simp [Contents.text, String.fromUTF8?, hbytes]

/-! ## Settings files -/

namespace Config

variable {path : String} {contents : Contents}

/-- A settings file is loaded exactly when it is a text that gives settings. -/
theorem load_eq_ok_iff {config : Config} :
    load path contents = .ok config ↔
      ∃ text, contents.text = .ok text ∧
        ∃ given, Given.ofJson text = .ok given ∧ given.complete = config := by
  unfold load
  cases contents.text with
  | error fault => simp
  | ok text =>
    cases hgiven : Given.ofJson text with
    | error e => simp [ofJson, hgiven, Except.map]
    | ok given => simp [ofJson, hgiven, Except.map]

theorem load_eq_error_iff {failure : Failure} :
    load path contents = .error failure ↔
      (∃ fault, contents.LacksText fault ∧ failure = .configRead path fault) ∨
      ∃ text e, contents = .ok text.toByteArray ∧ ofJson text = .error e ∧
        failure = .configParse path e := by
  simp only [← Contents.text_eq_error_iff, ← Contents.text_eq_ok_iff]
  unfold load
  cases contents.text with
  | error fault => simp [eq_comm]
  | ok text => cases hparse : ofJson text <;> simp [hparse, eq_comm]

theorem exists_load_iff (path : String) :
    (∃ config, load path contents = .ok config) ↔
      ∃ text config, contents = .ok text.toByteArray ∧ ofJson text = .ok config := by
  simp only [← Contents.text_eq_ok_iff]
  unfold load
  cases contents.text with
  | error fault => simp
  | ok text => cases hparse : ofJson text <;> simp [hparse]

end Config

/-! ## Messages -/

namespace Failure

/-- What kind of thing could not be had. -/
inductive Kind where
  | sourceRead
  | configRead
  | configParse
  | inputRead
  deriving DecidableEq, Repr

/-- The words that a message opens with. -/
def Kind.opening : Kind → String
  | sourceRead => "Failed to read source at "
  | configRead => "Failed to read config at "
  | configParse => "Failed to parse config at "
  | inputRead => "Failed to read source from stdin"

def kind : Failure → Kind
  | .sourceRead .. => .sourceRead
  | .configRead .. => .configRead
  | .configParse .. => .configParse
  | .inputRead => .inputRead

/-- The path of the file that fails; the standard input has none. -/
def path? : Failure → Option String
  | .sourceRead path _ | .configRead path _ | .configParse path _ => some path
  | .inputRead => none

/-- Why the file fails. -/
def reason : Failure → String
  | .sourceRead _ fault | .configRead _ fault => fault.message
  | .configParse _ error => error.message
  | .inputRead => ""

/-- What a message tells behind its opening words. -/
def particulars (f : Failure) : String :=
  match f.path? with
  | some path => path ++ (": " ++ f.reason)
  | none => ""

variable {f g : Failure} {path : String}

/-- **The message** of a failure is put together from its kind, its path and its reason. -/
theorem message_eq (f : Failure) : f.message = f.kind.opening ++ f.particulars := by
  cases f with
  | sourceRead | configRead | configParse =>
    -- path and reason are told in the same way by all of these
    show _ ++ _ ++ _ ++ _ = _ ++ (_ ++ (_ ++ _))
    rw [String.append_assoc, String.append_assoc]
    rfl
  | inputRead => exact String.append_empty.symm

theorem particulars_of_path (h : f.path? = some path) :
    f.particulars = path ++ (": " ++ f.reason) := by
  rw [particulars, h]

/-- Only a failure of the standard input has no path, and it has no reason either. -/
theorem reason_of_path_none (h : f.path? = none) : f.reason = "" := by
  cases f with
  | inputRead => rfl
  | sourceRead | configRead | configParse => cases h

/-- The path is in the message as it was given. -/
theorem path_infix_message (h : f.path? = some path) : path.toList <:+: f.message.toList := by
  rw [message_eq, particulars_of_path h, String.toList_append, String.toList_append]
  exact (List.prefix_append _ _).isInfix.trans (List.suffix_append _ _).isInfix

theorem Kind.eq_of_isPrefix {k k' : Kind} (h : k.opening.toList <+: k'.opening.toList) :
    k = k' := by
  revert h
  cases k <;> cases k' <;> decide

/-- **The kind of a failure** can be told from its message. -/
theorem kind_eq_of_message_eq (h : f.message = g.message) : f.kind = g.kind := by
  have hf : f.kind.opening.toList <+: f.message.toList := by
    rw [message_eq, String.toList_append]
    exact List.prefix_append _ _
  have hg : g.kind.opening.toList <+: f.message.toList := by
    rw [h, message_eq, String.toList_append]
    exact List.prefix_append _ _
  -- of two beginnings of one message, one begins with the other
  rcases List.prefix_or_prefix_of_prefix hf hg with hle | hle
  · exact Kind.eq_of_isPrefix hle
  · exact (Kind.eq_of_isPrefix hle).symm

/-- Failures with the same path have the same message exactly when they are of the same
kind and for the same reason. -/
theorem message_eq_message_iff (hpath : f.path? = g.path?) :
    f.message = g.message ↔ f.kind = g.kind ∧ f.reason = g.reason := by
  constructor
  · intro h
    have hkind := kind_eq_of_message_eq h
    refine ⟨hkind, ?_⟩
    rw [message_eq, message_eq g, hkind, String.append_right_inj] at h
    cases hf : f.path? with
    | none => rw [reason_of_path_none hf, reason_of_path_none (hpath ▸ hf)]
    | some path =>
      rwa [particulars_of_path hf, particulars_of_path (hpath ▸ hf), String.append_right_inj,
        String.append_right_inj] at h
  · rintro ⟨hkind, hreason⟩
    rw [message_eq, message_eq g, particulars, particulars, hkind, hpath, hreason]

end Failure

end ImportMaps

import ImportMaps.Config.Basic
import ImportMaps.Json.Printer
import ImportMaps.Json.Reader

/-!
# ImportMaps — settings as JSON

Settings are kept in a JSON object with at most two members, one per setting,
both texts. A setting that is absent has its default; any other member, a member
that comes twice and a value that is no text are refused. The record may also be
written as a list of the two texts, of which the last ones may be missing.
-/

namespace ImportMaps

open Json

/-! ## Fields -/

/-- The settings by name. -/
inductive Config.Field where
  | resolutionHost
  | reactVersion
  deriving DecidableEq, Repr

namespace Config.Field

def key : Field → String
  | resolutionHost => "resolutionHost"
  | reactVersion => "reactVersion"

def all : List Field := [resolutionHost, reactVersion]

def ofKey? (name : String) : Option Field :=
  all.find? (·.key == name)

end Config.Field

namespace Config

/-- The settings that a text gives, as far as it has been read. -/
structure Given where
  resolutionHost : Option String := none
  reactVersion : Option String := none
  deriving DecidableEq, Repr

def Given.get? (g : Given) : Field → Option String
  | .resolutionHost => g.resolutionHost
  | .reactVersion => g.reactVersion

def Given.set (g : Given) (field : Field) (value : String) : Given :=
  match field with
  | .resolutionHost => { g with resolutionHost := some value }
  | .reactVersion => { g with reactVersion := some value }

/-- What has been given, with the defaults for the rest. -/
def Given.complete (g : Given) : Config where
  resolutionHost := g.resolutionHost.getD standard.resolutionHost
  reactVersion := g.reactVersion.getD standard.reactVersion

/-! ## Writing -/

/-- The compact form of settings. Both are written, defaults too. -/
def toJson (c : Config) : String :=
  String.ofList (compactObject
    [(Field.resolutionHost.key, quote c.resolutionHost),
     (Field.reactVersion.key, quote c.reactVersion)])

/-! ## Reading -/

def recordName : String := "ResolverConfig"

/-- Reads a member of the record. Only settings are admitted, each of them once. -/
def readMember (given : Given) (name : String) (cs : List Char) :
    Except Fault (Given × List Char) :=
  match Field.ofKey? name with
  | none => .error (.here (afterClosing cs) (.unknownField name (Field.all.map Field.key)))
  | some field =>
    if (given.get? field).isSome then
      .error (.here (afterClosing cs) (.duplicateField field.key))
    else
      match readColon cs with
      | .error f => .error f
      | .ok value =>
        match readText value with
        | .error f => .error f
        | .ok (setting, rest) => .ok (given.set field setting, rest)

theorem length_of_readMember {given given' : Given} {name : String} {cs rest : List Char}
    (h : readMember given name cs = .ok (given', rest)) : rest.length ≤ cs.length := by
  unfold readMember at h
  split at h
  · simp at h
  · split at h
    · simp at h
    · split at h
      · simp at h
      · next hcolon =>
        split at h
        · simp at h
        · next htext =>
          simp only [Except.ok.injEq, Prod.mk.injEq] at h
          have := length_of_readColon hcolon
          have := length_of_readText htext
          rw [← h.2]
          omega

/-- Gathers the settings of an object. -/
def memberReader : MemberReader Given :=
  ⟨readMember, length_of_readMember⟩

/-- The record written as an object, after its opening brace. -/
def readObject (cs : List Char) : Except Fault (Given × List Char) :=
  readMembers memberReader {} true cs

/-- Reads the second element of the record written as a list, and its end. -/
def readListSecond (given : Given) (cs : List Char) : Except Fault (Given × List Char) :=
  match nextElement false cs with
  | .error f => .error f
  | .ok (.ended rest) => .ok (given, rest)
  | .ok (.element rest) =>
    match readText rest with
    | .error f => .error f
    | .ok (version, rest) => (endList rest).map (given.set .reactVersion version, ·)

/-- The record written as a list, after its opening bracket. -/
def readList (cs : List Char) : Except Fault (Given × List Char) :=
  match nextElement true cs with
  | .error f => .error f
  | .ok (.ended rest) => .ok ({}, rest)
  | .ok (.element rest) =>
    match readText rest with
    | .error f => .error f
    | .ok (host, rest) => readListSecond (Given.set {} .resolutionHost host) rest

/-- The settings that a text gives. -/
def Given.ofJson (text : String) : Except Json.Error Given :=
  readDocument (readRecord recordName readObject readList) text.toList

def ofJson (text : String) : Except Json.Error Config :=
  (Given.ofJson text).map Given.complete

end Config

end ImportMaps

import ImportMaps.Proofs.Failure
import ImportMaps.Proofs.Json.Value

/-!
# ImportMaps — which settings files are accepted

A settings file holds an object. Its members may have any names and any values; the
reader goes by one step (`Given.take`), which takes a member when it names a setting
that has not been given yet and its value is a text, and refuses it otherwise.

What the step refuses depends on the members before it. Over a whole object this comes
to three conditions that do not speak of an order any more (`Admits`): the names are
those of settings, none comes twice, and the values are texts. The induction is on the
members that are still to come, with the settings already given in front of them.

Main result:

* `load_object` — an object is loaded exactly when its members are admitted, and then
  gives the settings it names, with the defaults for the others; otherwise the file
  cannot be parsed. Written settings are read back.
-/

namespace ImportMaps.Config

open Json Text

/-! ## Names of settings -/

namespace Field

theorem key_injective {field field' : Field} (h : field.key = field'.key) : field = field' := by
  cases field <;> cases field' <;> first | rfl | exact absurd h (by decide)

theorem ofKey?_eq_some_iff {name : String} {field : Field} :
    ofKey? name = some field ↔ name = field.key := by
  constructor
  · intro h
    have hfound := List.find?_some h
    exact (beq_iff_eq.1 hfound).symm
  · rintro rfl
    cases field <;> decide

end Field

/-! ## One member -/

theorem Given.get?_empty (field : Field) : Given.get? {} field = none := by
  cases field <;> rfl

theorem Given.get?_set (given : Given) (field field' : Field) (value : String) :
    (given.set field value).get? field' =
      if field' = field then some value else given.get? field' := by
  cases field <;> cases field' <;> rfl

/-- One member of an object: it is taken when it names a setting that has not been given
yet and is a text. -/
def Given.take (given : Given) (member : String × Value) : Option Given :=
  (Field.ofKey? member.1).bind fun field =>
    if (given.get? field).isSome then none else member.2.text?.map (given.set field)

theorem Given.take_eq_some_iff {given given' : Given} {member : String × Value} :
    given.take member = some given' ↔
      ∃ (field : Field) (value : String), member = (field.key, .text value) ∧
        given.get? field = none ∧ given.set field value = given' := by
  obtain ⟨name, x⟩ := member
  constructor
  · intro h
    -- the three tests of the step: the name, that the setting is new, and the value
    obtain ⟨field, hfield, hset⟩ := Option.bind_eq_some_iff.1 h
    obtain rfl := Field.ofKey?_eq_some_iff.1 hfield
    split at hset
    · cases hset
    · next hnew =>
      obtain ⟨value, hvalue, rfl⟩ := Option.map_eq_some_iff.1 hset
      obtain rfl := Value.text?_eq_some_iff.1 hvalue
      exact ⟨field, value, rfl, Option.not_isSome_iff_eq_none.1 hnew, rfl⟩
  · rintro ⟨field, value, ⟨rfl, rfl⟩, hnew, rfl⟩
    rw [take, Field.ofKey?_eq_some_iff.2 rfl, Option.bind_some, hnew]
    rfl

/-- The reader of settings goes by this step. -/
theorem goesBy_take : memberReader.GoesBy ValueText Given.take := by
  intro given member v rest between gap hvalue
  show (readMember given member.1 _).toOption = _
  rw [readMember, Given.take]
  cases Field.ofKey? member.1 with
  | none => rfl
  | some field =>
    rw [Option.bind_some]
    dsimp only
    split
    · rfl
    · -- a setting that is new is refused for its value only
      rw [readColon_blanks, readColon_cons]
      have htext := hvalue.toOption_readText rest
      rw [← readText_blanks gap] at htext
      dsimp only
      cases hread : readText (gap.chars ++ (v ++ rest)) with
      | error f =>
        rw [hread] at htext
        rw [Option.map_eq_none_iff.1 htext.symm]
        rfl
      | ok gathered =>
        rw [hread] at htext
        obtain ⟨value, hvalue, rfl⟩ := Option.map_eq_some_iff.1 htext.symm
        rw [hvalue]
        rfl

/-! ## All members -/

/-- The members that settings may have, in any order. -/
structure Admits (members : List (String × Value)) : Prop where
  /-- Every name is that of a setting. -/
  names : ∀ member ∈ members, ∃ field : Field, member.1 = field.key
  /-- No name comes twice. -/
  once : (members.map Prod.fst).Nodup
  /-- Every value is a text. -/
  texts : ∀ member ∈ members, ∃ value, member.2 = .text value

theorem admits_nil : Admits [] :=
  ⟨by simp, .nil, by simp⟩

theorem admits_cons_iff {member : String × Value} {members : List (String × Value)} :
    Admits (member :: members) ↔
      (∃ (field : Field) (value : String), member = (field.key, .text value)) ∧
        member.1 ∉ members.map Prod.fst ∧ Admits members := by
  constructor
  · rintro ⟨hnames, honce, htexts⟩
    rw [List.forall_mem_cons] at hnames htexts
    obtain ⟨⟨field, hfield⟩, hnames⟩ := hnames
    obtain ⟨⟨value, hvalue⟩, htexts⟩ := htexts
    obtain ⟨hnew, honce⟩ := List.nodup_cons.1 honce
    exact ⟨⟨field, value, Prod.ext hfield hvalue⟩, hnew, hnames, honce, htexts⟩
  · rintro ⟨⟨field, value, rfl⟩, hnew, hnames, honce, htexts⟩
    exact ⟨List.forall_mem_cons.2 ⟨⟨field, rfl⟩, hnames⟩, List.nodup_cons.2 ⟨hnew, honce⟩,
      List.forall_mem_cons.2 ⟨⟨value, rfl⟩, htexts⟩⟩

/-- **Which members are taken**: admitted ones, as long as none of them has been given
before. -/
theorem exists_foldlM_take_iff {members : List (String × Value)} {given : Given} :
    (∃ given', members.foldlM Given.take given = some given') ↔
      Admits members ∧
        ∀ field, (given.get? field).isSome → field.key ∉ members.map Prod.fst := by
  induction members generalizing given with
  | nil => simp [admits_nil]
  | cons member members ih =>
    rw [admits_cons_iff]
    constructor
    · rintro ⟨given', h⟩
      rw [List.foldlM_cons] at h
      obtain ⟨next, htake, h⟩ := Option.bind_eq_some_iff.1 h
      obtain ⟨field, value, rfl, hnew, rfl⟩ := Given.take_eq_some_iff.1 htake
      obtain ⟨hadmits, hlater⟩ := ih.1 ⟨given', h⟩
      -- from here on the setting counts as given, so it cannot come again
      refine ⟨⟨⟨field, value, rfl⟩, hlater field (by simp [Given.get?_set]), hadmits⟩, ?_⟩
      intro field' hgiven
      have hne : field' ≠ field := by
        rintro rfl
        rw [hnew] at hgiven
        cases hgiven
      rw [List.map_cons, List.mem_cons, not_or]
      refine ⟨fun hkey => hne (Field.key_injective hkey), hlater field' ?_⟩
      rw [Given.get?_set, if_neg hne]
      exact hgiven
    · rintro ⟨⟨⟨field, value, rfl⟩, honce, hadmits⟩, hbefore⟩
      have hnew : given.get? field = none := by
        apply Option.not_isSome_iff_eq_none.1
        intro hgiven
        exact hbefore field hgiven List.mem_cons_self
      -- what makes the first member new also keeps it apart from the later ones
      have hlater : ∀ field', ((given.set field value).get? field').isSome →
          field'.key ∉ members.map Prod.fst := by
        intro field' hgiven
        rw [Given.get?_set] at hgiven
        split at hgiven
        · next heq =>
          rw [heq]
          exact honce
        · exact fun hmem => hbefore field' hgiven (List.mem_cons_of_mem _ hmem)
      obtain ⟨given', h⟩ := ih.2 ⟨hadmits, hlater⟩
      refine ⟨given', ?_⟩
      rw [List.foldlM_cons, Given.take_eq_some_iff.2 ⟨field, value, rfl, hnew, rfl⟩]
      exact h

/-- **What is gathered**: a setting has the value that it had before or the one that a
member gives it. -/
theorem get?_of_foldlM_take {members : List (String × Value)} {given given' : Given}
    (h : members.foldlM Given.take given = some given') (field : Field) (value : String) :
    given'.get? field = some value ↔
      given.get? field = some value ∨ (field.key, .text value) ∈ members := by
  induction members generalizing given with
  | nil =>
    obtain rfl := Option.some.inj h
    simp
  | cons member members ih =>
    rw [List.foldlM_cons] at h
    obtain ⟨next, htake, h⟩ := Option.bind_eq_some_iff.1 h
    obtain ⟨setting, first, rfl, hnew, rfl⟩ := Given.take_eq_some_iff.1 htake
    rw [ih h, Given.get?_set, List.mem_cons, Prod.mk.injEq, Value.text.injEq]
    by_cases hfield : field = setting
    · -- it has no value before the first member gives it one
      subst hfield
      simp [hnew, eq_comm]
    · have hkey : field.key ≠ setting.key := fun hkey => hfield (Field.key_injective hkey)
      simp [hfield, hkey]

/-! ## Settings files -/

/-- The value of a setting. -/
def setting (c : Config) : Field → String
  | .resolutionHost => c.resolutionHost
  | .reactVersion => c.reactVersion

theorem ext_setting {c c' : Config} (h : ∀ field, c.setting field = c'.setting field) :
    c = c' := by
  obtain ⟨host, version⟩ := c
  obtain ⟨host', version'⟩ := c'
  obtain rfl : host = host' := h .resolutionHost
  obtain rfl : version = version' := h .reactVersion
  rfl

theorem Given.setting_complete (given : Given) (field : Field) :
    given.complete.setting field = (given.get? field).getD (standard.setting field) := by
  cases field <;> rfl

/-- A file with a text in it is parsed as this text. -/
theorem load_toByteArray (path text : String) :
    load path (.ok text.toByteArray) =
      match Given.ofJson text with
      | .error e => .error (.configParse path e)
      | .ok given => .ok given.complete := by
  have htext : Contents.text (.ok text.toByteArray) = .ok text := Contents.text_eq_ok_iff.2 rfl
  rw [load, htext]
  dsimp only
  rw [ofJson]
  cases Given.ofJson text <;> rfl

section Object

variable {members : List (String × Value)} {text : String} {c : Config}
variable (h : ObjectDocument ValueText members text.toList) (path : String)

include h

/-- The settings of an object are those that its members leave behind. -/
theorem toOption_givenOfJson : (Given.ofJson text).toOption = members.foldlM Given.take {} :=
  h.toOption_readDocument goesBy_take recordName {} readList

theorem load_object_eq_ok_iff :
    load path (.ok text.toByteArray) = .ok c ↔
      ∃ given, members.foldlM Given.take {} = some given ∧ given.complete = c := by
  rw [load_toByteArray, ← toOption_givenOfJson h]
  cases Given.ofJson text <;> simp [Except.toOption]

theorem exists_load_object_iff :
    (∃ c, load path (.ok text.toByteArray) = .ok c) ↔ Admits members := by
  simp only [load_object_eq_ok_iff h path]
  constructor
  · rintro ⟨c, given, hgathered, rfl⟩
    exact (exists_foldlM_take_iff.1 ⟨given, hgathered⟩).1
  · intro hadmits
    have hnone : ∀ field, (Given.get? {} field).isSome → field.key ∉ members.map Prod.fst := by
      intro field hgiven
      rw [Given.get?_empty] at hgiven
      cases hgiven
    obtain ⟨given, hgathered⟩ := exists_foldlM_take_iff.2 ⟨hadmits, hnone⟩
    exact ⟨given.complete, given, hgathered, rfl⟩

/-- A setting has the value that the object gives it, or else its default. -/
theorem setting_of_load_object (hload : load path (.ok text.toByteArray) = .ok c)
    (field : Field) :
    (∀ value, (field.key, .text value) ∈ members → c.setting field = value) ∧
      (field.key ∉ members.map Prod.fst → c.setting field = standard.setting field) := by
  obtain ⟨given, hgathered, rfl⟩ := (load_object_eq_ok_iff h path).1 hload
  have hvalue := get?_of_foldlM_take hgathered field
  rw [Given.setting_complete]
  constructor
  · intro value hmem
    rw [(hvalue value).2 (.inr hmem)]
    rfl
  · intro habsent
    cases hget : given.get? field with
    | none => rfl
    | some value =>
      -- the value must come from a member, and there is none with this name
      rcases (hvalue value).1 hget with hbefore | hmem
      · rw [Given.get?_empty] at hbefore
        cases hbefore
      · exact absurd (List.mem_map_of_mem hmem) habsent

theorem load_object_eq_error (hrefused : ¬ Admits members) :
    ∃ e, load path (.ok text.toByteArray) = .error (.configParse path e) := by
  -- the file has a text, so only parsing it can go wrong
  rw [← exists_load_object_iff h path] at hrefused
  rw [load_toByteArray] at hrefused ⊢
  cases hgiven : Given.ofJson text with
  | error e => exact ⟨e, rfl⟩
  | ok given => exact absurd ⟨given.complete, by rw [hgiven]⟩ hrefused

end Object

/-! ## Reading back -/

/-- The settings by their names, as they are written. -/
def settings (c : Config) : List (String × String) :=
  Field.all.map fun field => (field.key, c.setting field)

/-- The members of written settings. -/
def members (c : Config) : List (String × Value) :=
  c.settings.map fun setting => (setting.1, .text setting.2)

theorem mem_members (c : Config) (field : Field) :
    (field.key, .text (c.setting field)) ∈ c.members := by
  cases field
  · exact List.mem_cons_self
  · exact List.mem_cons_of_mem _ List.mem_cons_self

theorem admits_members (c : Config) : Admits c.members where
  names := by
    intro member hmem
    obtain ⟨setting, hsetting, rfl⟩ := List.mem_map.1 hmem
    obtain ⟨field, -, rfl⟩ := List.mem_map.1 hsetting
    exact ⟨field, rfl⟩
  once := by
    show (Field.all.map Field.key).Nodup
    decide
  texts := by
    intro member hmem
    obtain ⟨setting, -, rfl⟩ := List.mem_map.1 hmem
    exact ⟨setting.2, rfl⟩

theorem objectDocument_toJson (c : Config) :
    ObjectDocument ValueText c.members c.toJson.toList := by
  have hobject : ObjectText IsQuoted c.settings c.toJson.toList := by
    rw [toJson, String.toList_ofList, compactObject_eq]
    exact Spelling.printed.objectText .compact Spelling.printed.isQuoted c.settings
  have hvalues : ∀ value q, IsQuoted value q → ValueText (.text value) q :=
    fun _ _ => .text
  exact (hobject.map hvalues).document

theorem load_toJson (c : Config) (path : String) :
    load path (.ok c.toJson.toByteArray) = .ok c := by
  have hdocument := c.objectDocument_toJson
  obtain ⟨c', hload⟩ := (exists_load_object_iff hdocument path).2 c.admits_members
  rw [hload]
  apply congrArg
  apply ext_setting
  -- both settings are among the members, so no default comes in
  intro field
  exact (setting_of_load_object hdocument path hload field).1 _ (c.mem_members field)

/-! ## The contract of a settings file -/

/-- **Settings files**: a file with an object is loaded exactly when its members are
admitted. Each setting then has the value that the object gives it, or its default when
the object does not name it; an object that is not admitted cannot be parsed. And
settings that have been written are read back. -/
theorem load_object :
    (∀ (members : List (String × Value)) (text path : String),
      ObjectDocument ValueText members text.toList →
        ((∃ c, load path (.ok text.toByteArray) = .ok c) ↔ Admits members) ∧
        (∀ c, load path (.ok text.toByteArray) = .ok c → ∀ field : Field,
          (∀ value, (field.key, .text value) ∈ members → c.setting field = value) ∧
          (field.key ∉ members.map Prod.fst → c.setting field = standard.setting field)) ∧
        (¬ Admits members →
          ∃ e, load path (.ok text.toByteArray) = .error (.configParse path e))) ∧
    ∀ (c : Config) (path : String), load path (.ok c.toJson.toByteArray) = .ok c := by
  refine ⟨?_, load_toJson⟩
  intro members text path h
  refine ⟨exists_load_object_iff h path, ?_, load_object_eq_error h path⟩
  intro c hload
  exact setting_of_load_object h path hload

/-- One setting, with escapes in its name and in its value. -/
theorem objectDocument_escaped :
    ObjectDocument ValueText [("reactVersion", .text "19/")]
      " \x7b\"\\u0072eactVersion\" :\n\"19\\/\"\x7d\n".toList := by
  have hunit : IsUnitText 0x72 ['0', '0', '7', '2'] :=
    ⟨_, _, _, _, _, _, _, _, rfl, rfl, rfl, rfl, rfl, rfl⟩
  have hname : SpellsText "reactVersion".toList _ :=
    .cons (.number hunit rfl rfl) (Spelling.printed.spellsText "eactVersion".toList)
  have hversion : SpellsText "19/".toList _ :=
    .cons (Spelling.printed.spells '1') (.cons (Spelling.printed.spells '9')
      (.cons (.short (show shortEscape? '/' = some '/' from rfl)) .nil))
  have hvalue : ValueText (.text "19/") _ := .text (.mk hversion)
  exact .mk oneSpace (lineStart 0)
    (.members (.mk noBlanks oneSpace (lineStart 0) (.mk hname) hvalue) (.closing noBlanks))

/-- The number that is written `-1.5e+3`. -/
def minusFifteenHundred : Numeral where
  isNegative := true
  whole := .lit ['1'] rfl
  whole_eq := by decide
  fraction := some (.lit ['5'] rfl)
  exponent := some ⟨false, some false, .lit ['3'] rfl⟩

/-- The elements of a list with one value of each of three types. -/
def mixedItems : List Value :=
  [.null, .number minusFifteenHundred, .object []]

/-- A setting, and a member that is none. -/
theorem objectDocument_mixed :
    ObjectDocument ValueText [("reactVersion", .text "19"), ("host", .list mixedItems)]
      "\x7b\"reactVersion\":\"19\",\"host\":[null, -1.5e+3,\x7b\x7d]\x7d".toList := by
  have quoted := Spelling.printed.isQuoted
  have hlist : ListText ValueText mixedItems _ :=
    .items noBlanks .null (.more noBlanks oneSpace (.number minusFifteenHundred)
      (.more noBlanks noBlanks (.object (.empty noBlanks)) (.closing noBlanks)))
  have hversion : ValueText (.text "19") _ := .text (quoted "19")
  have hhost : ValueText (.list mixedItems) _ := .list hlist
  exact .mk noBlanks noBlanks
    (.members (.mk noBlanks noBlanks noBlanks (quoted "reactVersion") hversion)
      (.more noBlanks (.mk noBlanks noBlanks noBlanks (quoted "host") hhost)
        (.closing noBlanks)))

theorem load_object_escaped_mixed :
    load "esmap.json" (.ok " \x7b\"\\u0072eactVersion\" :\n\"19\\/\"\x7d\n".toByteArray) =
      .ok (standard.withReact "19/") ∧
    ∃ e, load "esmap.json" (.ok
        "\x7b\"reactVersion\":\"19\",\"host\":[null, -1.5e+3,\x7b\x7d]\x7d".toByteArray) =
      .error (.configParse "esmap.json" e) := by
  constructor
  · obtain ⟨hloads, hgives, -⟩ := load_object.1 _ _ "esmap.json" objectDocument_escaped
    have hadmits : Admits [("reactVersion", .text "19/")] :=
      admits_cons_iff.2 ⟨⟨.reactVersion, "19/", rfl⟩, by simp, admits_nil⟩
    obtain ⟨c, hload⟩ := hloads.2 hadmits
    rw [hload]
    apply congrArg
    apply ext_setting
    intro field
    cases field with
    | resolutionHost => exact (hgives c hload .resolutionHost).2 (by decide)
    | reactVersion => exact (hgives c hload .reactVersion).1 _ List.mem_cons_self
  · obtain ⟨-, -, hrefuses⟩ := load_object.1 _ _ "esmap.json" objectDocument_mixed
    apply hrefuses
    rintro ⟨hnames, -, -⟩
    obtain ⟨field, hfield⟩ := hnames ("host", .list mixedItems) (by simp)
    have hkey : ∀ field : Field, "host" ≠ field.key := by
      rintro (_ | _) <;> decide
    exact hkey field hfield

end ImportMaps.Config

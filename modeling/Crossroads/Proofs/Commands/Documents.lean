import Mathlib.Data.List.Forall2
import Crossroads.Command
import Crossroads.Proofs.Json.Simple
/-!
# Documents of commands

A command has many documents: its members may come in any order, with gaps between the tokens, and with spare members
that it has no use for.  All of them are read as the command, the one it writes itself among them, and none is that has
one of the command's own members twice (`wire_keeps_command`).

The reader looks members up by name.  A name finds a member if just one has it, and how many do does not depend on
their order, so a lookup is decided by the command's own members and the spare ones apart from each other.
-/
namespace Crossroads.Command

variable {c : Command} {key : String} {v value : Json} {again : List TextUnit} {text : String}
  {named : List (String × Json)} {raw spare others : List (List TextUnit × Json)}

/-! ## The members of a command -/

def name : Command → String
  | pause                => "pause"
  | resume               => "resume"
  | setPolicy _          => "set_policy"
  | triggerEmergency _ _ => "trigger_emergency"
  | shutdown             => "shutdown"

/-- A text as a value, without escapes. -/
def plainText (s : String) : Json := .string (s.toList.map .scalar)

/-- What a command says beside its name. -/
def fields : Command → List (String × Json)
  | setPolicy p                => [("policy", plainText p.name)]
  | triggerEmergency lane kind => [("lane", .number (.ofInt lane)), ("kind", plainText kind.name)]
  | _                          => []

def members (c : Command) : List (String × Json) := ("command", plainText c.name) :: c.fields

/-- The members of a command as a document has them. -/
def ownMembers (c : Command) : List (List TextUnit × Json) := c.members.map fun m => (m.1.toList.map .scalar, m.2)

/-- Whether a command's lane is a number of 64 bits. -/
def IsSized (c : Command) : Prop := ∀ lane kind, c = triggerEmergency lane kind → lane < 18446744073709551616

/-- Members that a command has no use for: simple values, not nested too deeply for the document, under other names than
the command's own. -/
structure IsSpare (c : Command) (ms : List (List TextUnit × Json)) : Prop where
  named : ∀ m ∈ ms, (TextUnit.text? m.1).isSome
  simple : ∀ m ∈ ms, m.2.IsSimple
  shallow : ∀ m ∈ ms, m.2.depth < maxDepth
  foreign : ∀ m ∈ ms, ∀ own ∈ c.members, TextUnit.text? m.1 ≠ some own.1.toList

/-- Whether a text is an object with just these members, in any order and with gaps around it. -/
def IsObjectText (ms : List (List TextUnit × Json)) (text : String) : Prop :=
  ∃ (order : List (List TextUnit × Json)) (before body after : List Char), order.Perm ms ∧ Json.IsGap before ∧
    (Json.object order).IsText body ∧ Json.IsGap after ∧ text.toList = before ++ (body ++ after)

theorem text?_plainText (s : String) : (plainText s).text? = some s := by
  rw [plainText, Json.text?, TextUnit.text?_map_scalar, Option.map_some, String.ofList_toList]

theorem filter_members (h : (key, v) ∈ c.members) : c.members.filter (fun m => m.1 == key) = [(key, v)] := by
  cases c <;> simp only [members, fields, List.mem_cons, List.not_mem_nil, or_false, Prod.mk.injEq] at h
  case pause | resume | shutdown =>
    obtain ⟨rfl, rfl⟩ := h
    rfl
  case setPolicy =>
    obtain ⟨rfl, rfl⟩ | ⟨rfl, rfl⟩ := h <;> rfl
  case triggerEmergency =>
    obtain ⟨rfl, rfl⟩ | ⟨rfl, rfl⟩ | ⟨rfl, rfl⟩ := h <;> rfl

/-! ## Looking members up -/

/-- A member by its name; a name that is no text counts as empty. -/
def byName (m : List TextUnit × Json) : String × Json := (String.ofList ((TextUnit.text? m.1).getD []), m.2)

theorem namedMembers_eq_some_iff :
    namedMembers raw = some named ↔ (∀ m ∈ raw, (TextUnit.text? m.1).isSome) ∧ named = raw.map byName := by
  induction raw generalizing named with
  | nil => exact ⟨fun h => ⟨by simp, (Option.some.inj h).symm⟩, fun h => by rw [h.2]; rfl⟩
  | cons m raw ih =>
    rw [namedMembers] at ih ⊢
    rw [List.mapM_cons, List.forall_mem_cons]
    cases hm : TextUnit.text? m.1 with
    | none => simp
    | some cs =>
      have hname : byName m = (String.ofList cs, m.2) := by rw [byName, hm]; rfl
      simp only [Option.map_some, Option.bind_eq_bind, Option.bind_some, Option.bind_eq_some_iff, List.map_cons]
      rw [hname]
      constructor
      · rintro ⟨rest, hrest, ⟨⟩⟩
        obtain ⟨hraw, rfl⟩ := ih.1 hrest
        exact ⟨⟨rfl, hraw⟩, rfl⟩
      · rintro ⟨⟨-, hraw⟩, rfl⟩
        exact ⟨_, ih.2 ⟨hraw, rfl⟩, rfl⟩

theorem map_byName_ownMembers (c : Command) : c.ownMembers.map byName = c.members := by
  have hsame : ∀ m : String × Json, byName (m.1.toList.map .scalar, m.2) = m := by
    intro m
    rw [byName, TextUnit.text?_map_scalar, Option.getD_some, String.ofList_toList]
  rw [ownMembers, List.map_map]
  exact (List.map_congr_left fun m _ => hsame m).trans (List.map_id _)

theorem onlyMember_of_perm (h : (named.filter fun m => m.1 == key).Perm [(key, v)]) :
    onlyMember named key = some v := by
  rw [onlyMember, List.perm_singleton.1 h]

theorem onlyMember_eq_none (h : 2 ≤ (named.filter fun m => m.1 == key).length) : onlyMember named key = none := by
  rw [onlyMember]
  split
  · rename_i hone
    rw [hone, List.length_singleton] at h
    omega
  · rfl

theorem eq_of_onlyMember (h : onlyMember named key = some value) (hmem : (key, v) ∈ named) : value = v := by
  have hfound : (key, v) ∈ named.filter fun m => m.1 == key := List.mem_filter.2 ⟨hmem, beq_self_eq_true key⟩
  rw [onlyMember] at h
  split at h
  · rename_i hone
    rw [hone, List.mem_singleton] at hfound
    cases h
    cases hfound
    rfl
  · cases h

theorem IsSpare.filter_eq_nil (h : c.IsSpare spare) (hkey : (key, v) ∈ c.members) :
    (spare.map byName).filter (fun m => m.1 == key) = [] := by
  rw [List.filter_eq_nil_iff]
  intro m hm hsame
  obtain ⟨s, hs, rfl⟩ := List.mem_map.1 hm
  obtain ⟨cs, hcs⟩ := Option.isSome_iff_exists.1 (h.named s hs)
  have hname : String.ofList cs = key := by simpa [byName, hcs] using hsame
  refine h.foreign s hs _ hkey ?_
  rw [hcs, ← hname, String.toList_ofList]

/-- **Every own member of a command is found among spare ones**, in whatever order they come. -/
theorem onlyMember_own (h : c.IsSpare spare) (hraw : raw.Perm (c.ownMembers ++ spare)) (hkey : (key, v) ∈ c.members) :
    onlyMember (raw.map byName) key = some v := by
  have hfound := (hraw.map byName).filter fun m => m.1 == key
  rw [List.map_append, map_byName_ownMembers, List.filter_append, filter_members hkey, h.filter_eq_nil hkey,
    List.append_nil] at hfound
  exact onlyMember_of_perm hfound

/-- **An own member that is there twice is not found.** -/
theorem onlyMember_twice (hraw : raw.Perm (c.ownMembers ++ (again, value) :: others)) (hkey : (key, v) ∈ c.members)
    (hname : TextUnit.text? again = some key.toList) : onlyMember (raw.map byName) key = none := by
  have hfound := (hraw.map byName).filter fun m => m.1 == key
  have hagain : byName (again, value) = (key, value) := by
    rw [byName, hname, Option.getD_some, String.ofList_toList]
  rw [List.map_append, map_byName_ownMembers, List.filter_append, filter_members hkey, List.map_cons, hagain,
    List.filter_cons, if_pos (beq_self_eq_true key)] at hfound
  apply onlyMember_eq_none
  rw [hfound.length_eq, List.length_append, List.length_singleton, List.length_cons]
  omega

/-! ## Reading a command by its members -/

theorem ofMembers?_name (hsized : c.IsSized) (h : ∀ key v, (key, v) ∈ c.fields → onlyMember named key = some v) :
    ofMembers? c.name named = some c := by
  cases c with
  | pause | resume | shutdown => rfl
  | setPolicy p =>
    have hpolicy : policyOf? (plainText p.name) = some p := Json.choice?_string p.ofName?_name _
    have hmember : onlyMember named "policy" = some (plainText p.name) := h _ _ (by simp [fields])
    show (do return setPolicy (← policyOf? (← onlyMember named "policy"))) = _
    rw [hmember]
    simp only [Option.bind_eq_bind, Option.bind_some, hpolicy]
    rfl
  | triggerEmergency lane kind =>
    have hlane : (Json.number (.ofInt lane)).natIn? .unsigned64 = some lane := by
      have hlt := hsized lane kind rfl
      exact Json.natIn?_ofInt (Int.natCast_nonneg lane) (by simp only [Text.Range.unsigned64]; omega)
    have hkind : kindOf? (plainText kind.name) = some kind := Json.choice?_string kind.ofName?_name _
    have hmember : onlyMember named "lane" = some (.number (.ofInt lane)) := h _ _ (by simp [fields])
    have hmember' : onlyMember named "kind" = some (plainText kind.name) := h _ _ (by simp [fields])
    show (do
      let lane ← (← onlyMember named "lane").natIn? .unsigned64
      let kind ← kindOf? (← onlyMember named "kind")
      return triggerEmergency lane kind) = _
    rw [hmember, hmember']
    simp only [Option.bind_eq_bind, Option.bind_some, hlane, hkind]
    rfl

theorem ofMembers?_name_eq_none (hkey : (key, v) ∈ c.fields) (h : onlyMember named key = none) :
    ofMembers? c.name named = none := by
  cases c <;> simp only [fields, List.mem_cons, List.not_mem_nil, or_false, Prod.mk.injEq] at hkey
  case setPolicy p =>
    obtain ⟨rfl, -⟩ := hkey
    show (do return setPolicy (← policyOf? (← onlyMember named "policy"))) = _
    rw [h]
    rfl
  case triggerEmergency lane kind =>
    show (do
      let lane ← (← onlyMember named "lane").natIn? .unsigned64
      let kind ← kindOf? (← onlyMember named "kind")
      return triggerEmergency lane kind) = _
    obtain ⟨rfl, -⟩ | ⟨rfl, -⟩ := hkey
    · rw [h]
      rfl
    · simp [h]

/-! ## Reading a document -/

theorem ofJson?_object_eq_some (hdepth : (Json.object raw).depth ≤ maxDepth) (hwhole : (Json.object raw).isWhole = true)
    (hname : onlyMember (raw.map byName) "command" = some (plainText c.name))
    (hcommand : ofMembers? c.name (raw.map byName) = some c) : ofJson? (.object raw) = some c := by
  have hnames : ∀ m ∈ raw, (TextUnit.text? m.1).isSome := by
    rw [Json.isWhole, Json.membersWhole_iff] at hwhole
    exact fun m hm => (hwhole m hm).1
  have hnamed : namedMembers raw = some (raw.map byName) := namedMembers_eq_some_iff.2 ⟨hnames, rfl⟩
  rw [ofJson?, hwhole, decide_eq_true hdepth]
  simp only [Bool.and_self, if_true, hnamed, hname, text?_plainText, hcommand, Option.bind_eq_bind, Option.bind_some]

theorem isWhole_own (hsized : c.IsSized) {m : List TextUnit × Json} (h : m ∈ c.ownMembers) :
    (TextUnit.text? m.1).isSome ∧ m.2.isWhole = true ∧ m.2.depth = 0 := by
  obtain ⟨own, hown, rfl⟩ := List.mem_map.1 h
  refine ⟨by rw [TextUnit.text?_map_scalar]; rfl, ?_⟩
  cases c <;> simp only [members, fields, List.mem_cons, List.not_mem_nil, or_false] at hown
  case pause | resume | shutdown =>
    obtain rfl := hown
    exact ⟨Json.isWhole_string _, rfl⟩
  case setPolicy =>
    obtain rfl | rfl := hown <;> exact ⟨Json.isWhole_string _, rfl⟩
  case triggerEmergency lane kind =>
    have hlt := hsized lane kind rfl
    obtain rfl | rfl | rfl := hown
    · exact ⟨Json.isWhole_string _, rfl⟩
    · exact ⟨Json.isWhole_ofInt (by omega) (by omega), rfl⟩
    · exact ⟨Json.isWhole_string _, rfl⟩

/-- **A document of a command with spare members is read as the command.** -/
theorem ofDocument?_of_spare (hsized : c.IsSized) (hspare : c.IsSpare spare)
    (htext : IsObjectText (c.ownMembers ++ spare) text) : ofDocument? text = some c := by
  obtain ⟨order, before, body, after, horder, hbefore, hbody, hafter, htext⟩ := htext
  have hmem : ∀ m ∈ order, m ∈ c.ownMembers ∨ m ∈ spare := fun m hm => List.mem_append.1 (horder.mem_iff.1 hm)
  have hdepth : (Json.object order).depth ≤ maxDepth := by
    have hmembers : Json.membersDepth order ≤ 126 := by
      rw [Json.membersDepth_le_iff]
      intro m hm
      rcases hmem m hm with hown | hspare'
      · have hzero := (isWhole_own hsized hown).2.2
        omega
      · exact Nat.le_of_lt_succ (hspare.shallow m hspare')
    rw [Json.depth, maxDepth]
    omega
  have hwhole : (Json.object order).isWhole = true := by
    rw [Json.isWhole, Json.membersWhole_iff]
    intro m hm
    rcases hmem m hm with hown | hspare'
    · exact ⟨(isWhole_own hsized hown).1, (isWhole_own hsized hown).2.1⟩
    · exact ⟨hspare.named m hspare', (hspare.simple m hspare').isWhole⟩
  have hname : onlyMember (order.map byName) "command" = some (plainText c.name) :=
    onlyMember_own hspare horder List.mem_cons_self
  have hcommand : ofMembers? c.name (order.map byName) = some c :=
    ofMembers?_name hsized fun key v hfield => onlyMember_own hspare horder (List.mem_cons_of_mem _ hfield)
  rw [ofDocument?, Json.ofText?_eq_some hbefore hbody hafter htext, Option.bind_some]
  exact ofJson?_object_eq_some hdepth hwhole hname hcommand

/-- **A document that has one of a command's members twice is refused**, whatever the second one says. -/
theorem ofDocument?_of_twice {own : String × Json} (hown : own ∈ c.members)
    (hname : TextUnit.text? again = some own.1.toList)
    (htext : IsObjectText (c.ownMembers ++ (again, value) :: others) text) : ofDocument? text = none := by
  obtain ⟨order, before, body, after, horder, hbefore, hbody, hafter, htext⟩ := htext
  have htwice : onlyMember (order.map byName) own.1 = none := onlyMember_twice horder hown hname
  have hcommand : ("command", plainText c.name) ∈ order.map byName := by
    refine (horder.map byName).mem_iff.2 ?_
    rw [List.map_append, map_byName_ownMembers]
    exact List.mem_append_left _ List.mem_cons_self
  rw [ofDocument?, Json.ofText?_eq_some hbefore hbody hafter htext, Option.bind_some, ofJson?]
  split
  · cases hnamed : namedMembers order with
    | none => rfl
    | some named =>
      obtain ⟨-, rfl⟩ := namedMembers_eq_some_iff.1 hnamed
      simp only [Option.bind_eq_bind, Option.bind_some]
      cases hfound : onlyMember (order.map byName) "command" with
      | none => rfl
      | some j =>
        -- the name is there once, so it is the command's own, and it is one of the fields that is there twice
        obtain rfl := eq_of_onlyMember hfound hcommand
        rcases List.mem_cons.1 hown with rfl | hfield
        · rw [hfound] at htwice
          cases htwice
        · simp only [Option.bind_some, text?_plainText]
          exact ofMembers?_name_eq_none hfield htwice
  · rfl

/-! ## The document a command writes -/

/-- A text of a member: its name and its value. -/
def IsMemberText (m : List TextUnit × Json) (cs : List Char) : Prop :=
  ∃ head body, Json.NameText m.1 head ∧ m.2.IsText body ∧ cs = head ++ body

theorem isText_plainText {s : String} (h : s.toList.all Json.isPlain = true) :
    (plainText s).IsText ('"' :: (s.toList ++ ['"'])) := by
  rw [plainText, Json.IsText]
  exact ⟨_, .of_plain h, rfl⟩

theorem isText_lane (lane : Nat) : (Json.number (.ofInt lane)).IsText (Text.natText lane).toList := by
  rw [Json.IsText]
  exact ⟨lane, rfl, rfl⟩

/-- A name without escapes and gaps, and its value. -/
theorem isMemberText_plain {body : List Char} (hkey : key.toList.all Json.isPlain = true) (hbody : value.IsText body) :
    IsMemberText (key.toList.map .scalar, value) ('"' :: (key.toList ++ ['"', ':']) ++ body) :=
  ⟨_, body, ⟨[], key.toList, [], [], by decide, .of_plain hkey, by decide, by decide, rfl⟩, hbody, rfl⟩

theorem isMemberText_text (key s : String) (hkey : key.toList.all Json.isPlain = true)
    (hs : s.toList.all Json.isPlain = true) :
    IsMemberText (key.toList.map .scalar, plainText s) (textMember key s).toList := by
  have hmember := isMemberText_plain hkey (isText_plainText hs)
  simpa [textMember] using hmember

theorem isMemberText_lane (lane : Nat) :
    IsMemberText ("lane".toList.map .scalar, .number (.ofInt lane)) ("\"lane\":" ++ Text.natText lane).toList := by
  rw [String.toList_append]
  exact isMemberText_plain (by decide) (isText_lane lane)

theorem isMemberText_own (c : Command) :
    List.Forall₂ (fun m t => IsMemberText m t.toList) c.ownMembers c.memberTexts := by
  cases c with
  | pause => exact .cons (isMemberText_text "command" "pause" (by decide) (by decide)) .nil
  | resume => exact .cons (isMemberText_text "command" "resume" (by decide) (by decide)) .nil
  | shutdown => exact .cons (isMemberText_text "command" "shutdown" (by decide) (by decide)) .nil
  | setPolicy p =>
    have hp : p.name.toList.all Json.isPlain = true := by cases p <;> decide
    exact .cons (isMemberText_text "command" "set_policy" (by decide) (by decide))
      (.cons (isMemberText_text "policy" p.name (by decide) hp) .nil)
  | triggerEmergency lane kind =>
    have hkind : kind.name.toList.all Json.isPlain = true := by cases kind <;> decide
    exact .cons (isMemberText_text "command" "trigger_emergency" (by decide) (by decide)) (.cons (isMemberText_lane lane)
      (.cons (isMemberText_text "kind" kind.name (by decide) hkind) .nil))

theorem isGap_nil : Json.IsGap [] := by decide

section

variable {m : List TextUnit × Json} {ms : List (List TextUnit × Json)} {cs gap tail : List Char}

theorem membersText_last (hm : IsMemberText m cs) (hgap : Json.IsGap gap) :
    Json.MembersText [m] (cs ++ (gap ++ ['\x7d'])) := by
  obtain ⟨head, body, hhead, hbody, rfl⟩ := hm
  rw [Json.MembersText]
  exact ⟨head, body, gap, hhead, hbody, hgap, List.append_assoc ..⟩

theorem membersText_cons (hm : IsMemberText m cs) (hgap : Json.IsGap gap) (hms : ms ≠ [])
    (hrest : Json.MembersText ms tail) : Json.MembersText (m :: ms) (cs ++ (gap ++ ',' :: tail)) := by
  obtain ⟨head, body, hhead, hbody, rfl⟩ := hm
  obtain ⟨m', ms, rfl⟩ := List.exists_cons_of_ne_nil hms
  rw [Json.MembersText]
  exact ⟨head, body, gap, tail, hhead, hbody, hgap, hrest, List.append_assoc ..⟩

end

/-- Texts of members with commas between them and a brace at the end are a text of the members. -/
theorem membersText_intercalate {ms : List (List TextUnit × Json)} {texts : List String}
    (h : List.Forall₂ (fun m t => IsMemberText m t.toList) ms texts) (hne : ms ≠ []) :
    Json.MembersText ms ((",".intercalate texts).toList ++ ['\x7d']) := by
  induction h with
  | nil => exact absurd rfl hne
  | cons hm hrest ih =>
    cases hrest with
    | nil =>
      rw [String.intercalate_singleton]
      exact membersText_last hm isGap_nil
    | cons =>
      have hmembers := membersText_cons hm isGap_nil (List.cons_ne_nil _ _) (ih (List.cons_ne_nil _ _))
      rw [String.intercalate_cons_cons]
      simpa using hmembers

theorem isObjectText_document (c : Command) : IsObjectText c.ownMembers c.document := by
  have hne : c.ownMembers ≠ [] := by simp [ownMembers, members]
  refine ⟨c.ownMembers, [], c.document.toList, [], .refl _, by decide, ?_, by decide, by simp⟩
  rw [Json.IsText]
  refine ⟨_, membersText_intercalate c.isMemberText_own hne, ?_⟩
  simp [document]

theorem isSpare_nil (c : Command) : c.IsSpare [] := by
  constructor <;> simp

/-- **The wire keeps commands.**  A command is read back from the document it writes, and from every document with its
members in any order and with spare members.  A document that has one of its members twice is refused. -/
theorem wire_keeps_command (hsized : c.IsSized) :
    ofDocument? c.document = some c ∧
    (∀ spare text, c.IsSpare spare → IsObjectText (c.ownMembers ++ spare) text → ofDocument? text = some c) ∧
    ∀ own ∈ c.members, ∀ again value others text, TextUnit.text? again = some own.1.toList →
      IsObjectText (c.ownMembers ++ (again, value) :: others) text → ofDocument? text = none := by
  refine ⟨?_, ?_, ?_⟩
  · apply ofDocument?_of_spare hsized c.isSpare_nil
    rw [List.append_nil]
    exact c.isObjectText_document
  · intro spare text hspare htext
    exact ofDocument?_of_spare hsized hspare htext
  · intro own hown again value others text hname htext
    exact ofDocument?_of_twice hown hname htext

/-- An emergency of the last lane number of 64 bits. -/
def lastLane : Command := triggerEmergency 18446744073709551615 .police

/-- The name comes last, after a spare member, and a character of the lane's name is escaped. -/
def lastLaneDocument : String :=
  "\x7b \"kind\" : \"police\",\"note\":[null,\x7b\"x\":-1\x7d],\n\"l\\u0061ne\":18446744073709551615 ," ++
  "\"command\":\"trigger_emergency\"\x7d"

def lastLaneTwice : String :=
  "\x7b\"command\":\"trigger_emergency\",\"lane\":18446744073709551615,\"kind\":\"police\",\"lane\":null\x7d"

/-- The spare member of `lastLaneDocument`. -/
def note : List TextUnit × Json :=
  ("note".toList.map .scalar, .array [.null, .object [("x".toList.map .scalar, .number (.ofInt (-1)))]])

theorem isSpare_note : lastLane.IsSpare [note] := by
  have hsimple : note.2.IsSimple := by
    have hobject : (Json.object [("x".toList.map .scalar, .number (.ofInt (-1)))]).IsSimple :=
      .object (by decide) (by simpa using Json.IsSimple.number (by decide) (by decide))
    refine .array ?_
    rw [List.forall_mem_cons, List.forall_mem_singleton]
    exact ⟨.null, hobject⟩
  constructor <;> rw [List.forall_mem_singleton]
  · rfl
  · exact hsimple
  · decide
  · decide

theorem isText_note : note.2.IsText "[null,\x7b\"x\":-1\x7d]".toList := by
  have hvalue : (Json.number (.ofInt (-1))).IsText "-1".toList := by
    rw [Json.IsText]
    exact ⟨-1, rfl, by decide +kernel⟩
  have hx := isMemberText_plain (by decide : "x".toList.all Json.isPlain = true) hvalue
  simp only [note, Json.IsText, Json.ItemsText]
  exact ⟨_, ⟨[], _, [], _, isGap_nil, rfl, isGap_nil, ⟨[], _, [], isGap_nil, ⟨_, membersText_last hx isGap_nil, rfl⟩,
    isGap_nil, rfl⟩, rfl⟩, by decide +kernel⟩

theorem isObjectText_lastLaneDocument : IsObjectText (lastLane.ownMembers ++ [note]) lastLaneDocument := by
  have hkind : IsMemberText ("kind".toList.map .scalar, plainText "police") " \"kind\" : \"police\"".toList :=
    ⟨" \"kind\" : ".toList, _, ⟨[' '], "kind".toList, [' '], [' '], by decide, .of_plain (by decide), by decide,
      by decide, by decide⟩, isText_plainText (by decide), by decide⟩
  have hnote := isMemberText_plain (by decide : "note".toList.all Json.isPlain = true) isText_note
  have hlane : IsMemberText ("lane".toList.map .scalar, .number (.ofInt 18446744073709551615))
      ("\n\"l\\u0061ne\":".toList ++ (Text.natText 18446744073709551615).toList) :=
    ⟨"\n\"l\\u0061ne\":".toList, _, ⟨['\n'], "l\\u0061ne".toList, [], [], by decide,
      .plain (by decide) (by decide) (by decide) (.code rfl (.of_plain (by decide))), by decide, by decide, by decide⟩,
      isText_lane 18446744073709551615, rfl⟩
  have hname := isMemberText_text "command" "trigger_emergency" (by decide) (by decide)
  have hmembers := membersText_cons hkind isGap_nil (by simp) (membersText_cons hnote isGap_nil (by simp)
    (membersText_cons hlane (by decide : Json.IsGap [' ']) (by simp) (membersText_last hname isGap_nil)))
  have hperm : [("kind".toList.map .scalar, plainText "police"), note,
      ("lane".toList.map .scalar, Json.number (.ofInt 18446744073709551615)),
      ("command".toList.map .scalar, plainText "trigger_emergency")].Perm (lastLane.ownMembers ++ [note]) := by
    show ([_, note] ++ [_, _]).Perm _
    exact List.perm_append_comm.trans (.swap _ _ _)
  refine ⟨_, [], lastLaneDocument.toList, [], hperm, isGap_nil, ?_, isGap_nil, by simp⟩
  rw [Json.IsText]
  exact ⟨_, hmembers, by decide +kernel⟩

theorem isObjectText_lastLaneTwice :
    IsObjectText (lastLane.ownMembers ++ [("lane".toList.map .scalar, .null)]) lastLaneTwice := by
  have hvalue : Json.null.IsText "null".toList := by
    rw [Json.IsText]
    rfl
  have hnull : IsMemberText ("lane".toList.map .scalar, .null) "\"lane\":null".toList :=
    isMemberText_plain (by decide) hvalue
  have hmembers := membersText_intercalate (List.rel_append lastLane.isMemberText_own (.cons hnull .nil)) (by simp)
  refine ⟨_, [], lastLaneTwice.toList, [], .refl _, isGap_nil, ?_, isGap_nil, by simp⟩
  rw [Json.IsText]
  exact ⟨_, hmembers, by decide +kernel⟩

theorem wire_keeps_lastLane :
    lastLane.IsSized ∧ ofDocument? lastLane.document = some lastLane ∧ ofDocument? lastLaneDocument = some lastLane ∧
      ofDocument? lastLaneTwice = none := by
  have hsized : lastLane.IsSized := by
    rintro _ _ ⟨⟩
    decide
  obtain ⟨hown, hspare, htwice⟩ := wire_keeps_command hsized
  refine ⟨hsized, hown, hspare _ _ isSpare_note isObjectText_lastLaneDocument, ?_⟩
  have hlane : ("lane", Json.number (.ofInt 18446744073709551615)) ∈ lastLane.members := by
    simp [members, fields, lastLane]
  exact htwice _ hlane _ _ _ _ (TextUnit.text?_map_scalar _) isObjectText_lastLaneTwice

end Crossroads.Command

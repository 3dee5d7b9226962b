import Crossroads.Proofs.Config.Settings
/-!
# Documents and variables agree

A choice gives values to some of the settings.  It can be written as a document, one member for each value in any order,
and as variables, one text for each value with blanks around it.  Both are read as the configuration of the choice
(`documents_agree_variables`).

A document sets the fields in the order of its members and the variables are read in their own order.  The two come to
the same since different settings are different parts of a configuration: reading one setting commutes with reading
another (`Choice.set_comm`).
-/
namespace Crossroads

theorem Text.trim_append {before cs after : List Char} (hbefore : ∀ c ∈ before, isBlank c = true)
    (hcs : cs.any isBlank = false) (hafter : ∀ c ∈ after, isBlank c = true) :
    trim (before ++ (cs ++ after)) = cs := by
  have hstart : trimStart (before ++ (cs ++ after)) = trimStart (cs ++ after) :=
    List.dropWhile_append_of_pos hbefore
  have hkeep : ∀ c ∈ cs, isBlank c = false := by simpa using hcs
  cases cs with
  | nil =>
    have hblank : trimStart (after ++ []) = trimStart [] := List.dropWhile_append_of_pos hafter
    rw [List.append_nil] at hblank
    rw [trim, hstart, List.nil_append, hblank]
    rfl
  | cons c cs =>
    have hkept : ∀ t, trimStart (c :: t) = c :: t := by
      intro t
      simp [trimStart, hkeep c List.mem_cons_self]
    have hend : trimEnd (c :: cs ++ after) = trimEnd (c :: cs) := by
      rw [trimEnd, List.reverse_append, List.dropWhile_append_of_pos (by simpa using hafter)]
      rfl
    calc trim (before ++ (c :: cs ++ after))
        = trimEnd (c :: cs ++ after) := by rw [trim, hstart, List.cons_append, hkept]
      _ = trim (c :: cs) := by rw [hend, trim, hkept]
      _ = c :: cs := trim_of_no_blank hkeep

namespace Config

/-- Values for some of the settings. -/
def Choice := (s : Setting) → Option s.kind.Value

namespace Choice

variable {ch : Choice} {order : List Setting} {s : Setting} {c : Config}

def set (ch : Choice) (c : Config) (s : Setting) : Config :=
  match ch s with
  | none   => c
  | some v => s.assign (s.kind.content v) c

theorem set_of_eq_none (h : ch s = none) : ch.set c s = c := by
  rw [set, h]

theorem set_of_eq_some {v : s.kind.Value} (h : ch s = some v) : ch.set c s = s.assign (s.kind.content v) c := by
  rw [set, h]

/-- The configuration of a choice: the defaults, with the chosen values in their places, normalized. -/
def config (ch : Choice) : Config := (Setting.all.foldl ch.set {}).normalized

theorem set_comm (ch : Choice) (c : Config) (s t : Setting) : ch.set (ch.set c s) t = ch.set (ch.set c t) s := by
  by_cases h : s = t
  · rw [h]
  · rw [set, set, set, set]
    cases ch s with
    | none => rfl
    | some m =>
      cases ch t with
      | none => rfl
      | some n => exact (Setting.assign_comm h _ _ c).symm

theorem foldl_set_perm (horder : order.Perm Setting.all) : order.foldl ch.set c = Setting.all.foldl ch.set c :=
  horder.foldl_eq' (fun s _ t _ c => ch.set_comm c s t) c

/-! ## The document of a choice -/

/-- The member of a setting, if it is chosen. -/
def member (ch : Choice) (s : Setting) : Option (List TextUnit × Json) :=
  (ch s).map fun v => (s.field.toList.map .scalar, s.kind.json v)

/-- Whether a text is a document of the choice: an object with exactly the members that are chosen, in any order. -/
def IsDocument (ch : Choice) (text : String) : Prop :=
  ∃ (order : List Setting) (before body after : List Char), order.Perm Setting.all ∧ Json.IsGap before ∧
    (Json.object (order.filterMap ch.member)).IsText body ∧ Json.IsGap after ∧ text.toList = before ++ (body ++ after)

/-- The member of a setting that has not been set sets it. -/
theorem setMembers_cons (s : Setting) (v : s.kind.Value) {seen : List String} (hfresh : s.field ∉ seen)
    (members : List (List TextUnit × Json)) (c : Config) :
    setMembers seen ((s.field.toList.map .scalar, s.kind.json v) :: members) c =
      setMembers (s.field :: seen) members (s.assign (s.kind.content v) c) := by
  obtain ⟨f, hfind, hname, hassign⟩ := s.find?_field
  have hread : f.assign (s.kind.json v) = some (s.assign (s.kind.content v)) := by
    rw [hassign _ (s.kind.isNull_json v), s.kind.ofJson?_json, Option.map_some]
  have hnew : seen.contains s.field = false := by simpa using hfresh
  rw [setMembers, TextUnit.text?_map_scalar]
  simp only [Option.bind_eq_bind, Option.bind_some, String.ofList_toList, hfind, hname, hnew, hread,
    Bool.false_eq_true, if_false]

theorem setMembers_eq (ch : Choice) : ∀ (order : List Setting) (seen : List String) (c : Config), order.Nodup →
    (∀ s ∈ order, s.field ∉ seen) → setMembers seen (order.filterMap ch.member) c = some (order.foldl ch.set c)
  | [], _, _, _, _ => rfl
  | s :: order, seen, c, hnodup, hseen => by
    -- a setting comes once, so its field has not been seen when its member is reached
    obtain ⟨hs, hnodup⟩ := List.nodup_cons.1 hnodup
    obtain ⟨hfresh, hseen⟩ := List.forall_mem_cons.1 hseen
    rw [List.foldl_cons]
    cases hv : ch s with
    | none =>
      have hmember : ch.member s = none := by rw [member, hv]; rfl
      rw [List.filterMap_cons_none hmember, set_of_eq_none hv]
      exact setMembers_eq ch order seen c hnodup hseen
    | some v =>
      have hmember : ch.member s = some (s.field.toList.map .scalar, s.kind.json v) := by rw [member, hv]; rfl
      have hrest : ∀ t ∈ order, t.field ∉ s.field :: seen := by
        intro t ht hmem
        rcases List.mem_cons.1 hmem with heq | hmem
        · exact hs (Setting.field_injective heq ▸ ht)
        · exact hseen t ht hmem
      rw [List.filterMap_cons_some hmember, setMembers_cons s v hfresh, set_of_eq_some hv]
      exact setMembers_eq ch order (s.field :: seen) _ hnodup hrest

/-- **A document of a choice is read as its configuration.** -/
theorem ofDocument_eq {text : String} (h : ch.IsDocument text) : ofDocument text = .ok ch.config := by
  obtain ⟨order, before, body, after, horder, hbefore, hbody, hafter, htext⟩ := h
  have hread : Json.ofText? text = some (.object (order.filterMap ch.member)) :=
    Json.ofText?_eq_some hbefore hbody hafter htext
  have hset : setMembers [] (order.filterMap ch.member) {} = some (order.foldl ch.set {}) :=
    setMembers_eq ch order [] {} (horder.nodup_iff.2 Setting.nodup_all) (by simp)
  rw [ofDocument, hread, Option.bind_some, ofJson?, hset, foldl_set_perm horder]
  rfl

/-! ## The variables of a choice -/

/-- The variables of the choice: each chosen value's text with blanks around it, and nothing for the other settings. -/
structure IsGivenBy (ch : Choice) (lookup : String → Option String) : Prop where
  given : ∀ s v, ch s = some v → ∃ before after : List Char, (∀ c ∈ before, Text.isBlank c = true) ∧
    (∀ c ∈ after, Text.isBlank c = true) ∧
    lookup (variableStem ++ s.label) = some (String.ofList (before ++ ((s.kind.text v).toList ++ after)))
  unset : ∀ s, ch s = none → lookup (variableStem ++ s.label) = none

theorem setVariable_eq {lookup : String → Option String} (h : ch.IsGivenBy lookup) (c : Config) (s : Setting) :
    setVariable lookup c s.asVariable = .ok (ch.set c s) := by
  have hname : s.asVariable.fullName = variableStem ++ s.label := rfl
  rw [setVariable, hname]
  cases hv : ch s with
  | none => rw [h.unset s hv, set_of_eq_none hv]
  | some v =>
    obtain ⟨before, after, hbefore, hafter, hlookup⟩ := h.given s v hv
    have hread : s.asVariable.assign (s.kind.text v).toList = .ok (s.assign (s.kind.content v)) := by
      show (s.kind.ofText (s.kind.text v).toList).map s.assign = _
      rw [s.kind.ofText_text]
      rfl
    simp only [hlookup, String.toList_ofList, Text.trim_append hbefore (s.kind.any_isBlank_text v) hafter, hread,
      set_of_eq_some hv]

/-- **The variables of a choice are read as its configuration.** -/
theorem ofVariables_eq {lookup : String → Option String} (h : ch.IsGivenBy lookup) :
    ofVariables lookup = .ok ch.config := by
  rw [Setting.ofVariables_eq_map, Setting.foldlM_setVariable _ _ fun s _ c => setVariable_eq h c s]
  rfl

end Choice

/-- **A document and the variables of one choice are read as one configuration**, the choice's own: whatever is chosen,
in whatever order the document has it, and whatever blanks stand around a variable's text. -/
theorem documents_agree_variables {ch : Choice} {text : String} {lookup : String → Option String}
    (hdocument : ch.IsDocument text) (hvariables : ch.IsGivenBy lookup) :
    ofDocument text = .ok ch.config ∧ ofVariables lookup = .ok ch.config :=
  ⟨ch.ofDocument_eq hdocument, ch.ofVariables_eq hvariables⟩

/-- The lowest duration, the highest seed, and a policy. -/
def edges : Choice
  | .durationSecs  => some (-9223372036854775808 : Int64)
  | .seed          => some (18446744073709551615 : UInt64)
  | .initialPolicy => some Policy.agingSjf
  | _              => none

/-- The seed and the policy come first. -/
def edgesOrder : List Setting := .seed :: .initialPolicy :: (Setting.all.erase .seed).erase .initialPolicy

/-- A character of a name is escaped. -/
def edgesDocument : String :=
  "\x7b \"seed\": 18446744073709551615 ,\"\\u0069nitial_policy\" : \"aging_sjf\"," ++
  "\n \"duration_secs\":-9223372036854775808\x7d\n"

/-- The variables, with a tab and an em space around the duration. -/
def edgesVariables (name : String) : Option String :=
  if name = "TRAFFICGURU_DURATION_SECS" then some "\t-9223372036854775808\u2003"
  else if name = "TRAFFICGURU_SEED" then some "18446744073709551615"
  else if name = "TRAFFICGURU_POLICY" then some " aging_sjf\n"
  else none

theorem isDocument_edges : edges.IsDocument edgesDocument := by
  have hmembers : edgesOrder.filterMap edges.member = [
      ("seed".toList.map .scalar, .number (.ofInt 18446744073709551615)),
      ("initial_policy".toList.map .scalar, .string ("aging_sjf".toList.map .scalar)),
      ("duration_secs".toList.map .scalar, .number (.ofInt (-9223372036854775808)))] := rfl
  have hseed : Json.NameText ("seed".toList.map .scalar) " \"seed\": ".toList :=
    ⟨[' '], "seed".toList, [], [' '], by decide, .of_plain (by decide), by decide, by decide, by decide⟩
  have hpolicy : Json.NameText ("initial_policy".toList.map .scalar) "\"\\u0069nitial_policy\" : ".toList :=
    ⟨[], "\\u0069nitial_policy".toList, [' '], [' '], by decide, .code rfl (.of_plain (by decide)), by decide,
      by decide, by decide⟩
  have hduration : Json.NameText ("duration_secs".toList.map .scalar) "\n \"duration_secs\":".toList :=
    ⟨['\n', ' '], "duration_secs".toList, [], [], by decide, .of_plain (by decide), by decide, by decide, by decide⟩
  refine ⟨edgesOrder, [], edgesDocument.toList.dropLast, ['\n'], by decide, by decide, ?_, by decide, by decide⟩
  rw [hmembers]
  simp only [Json.IsText, Json.MembersText]
  refine ⟨_, ⟨_, _, [' '], _, hseed, ⟨_, rfl, rfl⟩, by decide, ⟨_, _, [], _, hpolicy,
    ⟨_, .of_plain (by decide), rfl⟩, by decide, ⟨_, _, [], hduration, ⟨_, rfl, rfl⟩, by decide, rfl⟩, rfl⟩, rfl⟩, ?_⟩
  decide +kernel

theorem isGivenBy_edges : edges.IsGivenBy edgesVariables := by
  refine ⟨fun s v hv => ?_, fun s hs => ?_⟩
  · cases s <;> cases hv
    · exact ⟨['\t'], ['\u2003'], List.all_eq_true.1 rfl, List.all_eq_true.1 rfl, by decide +kernel⟩
    · exact ⟨[' '], ['\n'], List.all_eq_true.1 rfl, List.all_eq_true.1 rfl, by decide +kernel⟩
    · exact ⟨[], [], List.all_eq_true.1 rfl, List.all_eq_true.1 rfl, by decide +kernel⟩
  · cases s <;> cases hs <;> decide

theorem documents_agree_variables_edges :
    ofDocument edgesDocument = .ok { initialPolicy := .agingSjf, seed := some 18446744073709551615 } ∧
      ofVariables edgesVariables = .ok { initialPolicy := .agingSjf, seed := some 18446744073709551615 } := by
  have hconfig : edges.config = { initialPolicy := .agingSjf, seed := some 18446744073709551615 } := by decide
  rw [← hconfig]
  exact documents_agree_variables isDocument_edges isGivenBy_edges

end Config
end Crossroads

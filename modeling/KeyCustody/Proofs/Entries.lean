import KeyCustody.Config.Settings
import Mathlib.Data.List.Nodup

/-!
Entries of mappings by what is found in them under text keys: after a write, after many writes, and
after entries are laid over others.
-/

set_option autoImplicit false

namespace KeyCustody

namespace Value

theorem is_text_iff (name : Text) (value : Value) :
    value.isText name = true ↔ value = .text name := by
  cases value <;> simp [isText]

theorem is_text_name (name other : Text) : (text name).isText other = true ↔ name = other := by
  rw [isText, beq_iff_eq]

theorem field_cons (key value : Value) (rest : Entries) (name : Text) :
    field? ((key, value) :: rest) name =
      (field? rest name).or (if key.isText name then some value else none) := by
  rw [field?, field?, List.reverse_cons, List.find?_append]
  cases rest.reverse.find? fun entry => entry.1.isText name with
  | some entry => rfl
  | none =>
      rw [List.find?_singleton]
      by_cases here : key.isText name = true <;> simp [here]

theorem field_other (key value : Value) (rest : Entries) (name : Text)
    (different : key ≠ .text name) : field? ((key, value) :: rest) name = field? rest name := by
  have passed : ¬ key.isText name = true := fun same => different ((is_text_iff name key).mp same)
  rw [field_cons, if_neg passed, Option.or_none]

theorem field_none_iff (entries : Entries) (name : Text) :
    field? entries name = none ↔ .text name ∉ entries.map Prod.fst := by
  rw [field?, Option.map_eq_none_iff, List.find?_eq_none]
  simp only [List.mem_reverse, is_text_iff, List.mem_map, not_exists, not_and]

theorem field_mem (entries : Entries) (name : Text) (value : Value)
    (found : field? entries name = some value) : (.text name, value) ∈ entries := by
  obtain ⟨entry, here, rfl⟩ := Option.map_eq_some_iff.mp found
  have named : entry.1.isText name = true :=
    List.find?_some (p := fun entry : Value × Value => entry.1.isText name) here
  rw [← (is_text_iff name entry.1).mp named]
  exact List.mem_reverse.mp (List.mem_of_find?_eq_some here)

theorem any_named_iff (entries : Entries) (name : Text) :
    (entries.any fun entry => entry.1.isText name) = true ↔ .text name ∈ entries.map Prod.fst := by
  simp only [List.any_eq_true, is_text_iff, List.mem_map]

theorem field_append (entries more : Entries) (name : Text) :
    field? (entries ++ more) name = (field? more name).or (field? entries name) := by
  induction entries with
  | nil => rw [List.nil_append, show field? [] name = none from rfl, Option.or_none]
  | cons entry rest ih =>
      rw [List.cons_append, field_cons entry.1 entry.2, ih, field_cons entry.1 entry.2,
        Option.or_assoc]

-- Replacing a value where it stands keeps all keys.
theorem field_replaced (entries : Entries) (name other : Text) (value : Value) :
    field? (entries.map fun entry => if entry.1.isText name then (entry.1, value) else entry)
        other =
      if other = name then (field? entries other).map fun _ => value else field? entries other := by
  induction entries with
  | nil =>
      rw [List.map_nil, show field? [] other = none from rfl]
      by_cases same : other = name <;> simp [same]
  | cons entry rest ih =>
      obtain ⟨key, old⟩ := entry
      rw [List.map_cons]
      by_cases here : key.isText name = true
      · have written : key = .text name := (is_text_iff name key).mp here
        subst written
        rw [if_pos here, field_cons, field_cons, ih]
        by_cases same : other = name
        · subst same
          rw [if_pos rfl, if_pos here, if_pos here, if_pos rfl]
          cases field? rest other <;> rfl
        · have passed : ¬ (text name).isText other = true := fun found =>
            same ((is_text_name name other).mp found).symm
          rw [if_neg same, if_neg passed, if_neg passed, if_neg same]
      · rw [if_neg here, field_cons, field_cons, ih]
        by_cases same : other = name
        · subst same
          rw [if_pos rfl, if_neg here, if_pos rfl, Option.or_none, Option.or_none]
        · rw [if_neg same, if_neg same]

theorem field_put (entries : Entries) (name other : Text) (value : Value) :
    field? (put entries name value) other =
      if other = name then some value else field? entries other := by
  rw [put]
  split
  · next there =>
      rw [field_replaced]
      by_cases same : other = name
      · subst same
        have held : field? entries other ≠ none := fun absent =>
          (field_none_iff entries other).mp absent ((any_named_iff entries other).mp there)
        obtain ⟨old, found⟩ := Option.ne_none_iff_exists'.mp held
        rw [if_pos rfl, if_pos rfl, found]
        rfl
      · rw [if_neg same, if_neg same]
  · rw [field_append, field_cons]
    by_cases same : other = name
    · subst same
      rw [if_pos rfl, if_pos ((is_text_name other other).mpr rfl)]
      rfl
    · have passed : ¬ (text name).isText other = true := fun found =>
        same ((is_text_name name other).mp found).symm
      rw [if_neg same, if_neg passed]
      rfl

/-! ## Keys -/

def Distinct (entries : Entries) : Prop := (entries.map Prod.fst).Nodup

theorem field_some_iff (entries : Entries) (distinct : Distinct entries) (name : Text)
    (value : Value) : field? entries name = some value ↔ (.text name, value) ∈ entries := by
  refine ⟨field_mem entries name value, fun member => ?_⟩
  cases found : field? entries name with
  | none =>
      exact absurd (List.mem_map_of_mem member) ((field_none_iff entries name).mp found)
  | some other =>
      have same := List.inj_on_of_nodup_map distinct member (field_mem entries name other found) rfl
      rw [(Prod.mk.inj same).2]

theorem put_distinct (entries : Entries) (name : Text) (value : Value)
    (distinct : Distinct entries) : Distinct (put entries name value) := by
  rw [put]
  split
  · have kept : (entries.map fun entry =>
        if entry.1.isText name then (entry.1, value) else entry).map Prod.fst =
          entries.map Prod.fst := by
      rw [List.map_map]
      apply List.map_congr_left
      intro entry _
      change (if entry.1.isText name then (entry.1, value) else entry).1 = entry.1
      split <;> rfl
    rw [Distinct, kept]
    exact distinct
  · next absent =>
      rw [any_named_iff] at absent
      rw [Distinct, List.map_append, List.nodup_append]
      refine ⟨distinct, List.pairwise_singleton _ _, ?_⟩
      intro key member other added same
      rw [List.map_singleton, List.mem_singleton] at added
      rw [same, added] at member
      exact absent member

theorem mem_put (entries : Entries) (name : Text) (value : Value) (entry : Value × Value)
    (member : entry ∈ put entries name value) : entry ∈ entries ∨ entry = (.text name, value) := by
  rw [put] at member
  split at member
  · obtain ⟨old, held, changed⟩ := List.mem_map.mp member
    by_cases here : old.1.isText name = true
    · rw [if_pos here, (is_text_iff name old.1).mp here] at changed
      exact .inr changed.symm
    · rw [if_neg here] at changed
      exact .inl (changed ▸ held)
  · rcases List.mem_append.mp member with held | added
    · exact .inl held
    · exact .inr (List.mem_singleton.mp added)

/-! ## Many writes -/

abbrev Writes := List (Text × Value)

def putAll (entries : Entries) (writes : Writes) : Entries :=
  writes.foldl (fun entries write => put entries write.1 write.2) entries

def latest? (writes : Writes) (name : Text) : Option Value :=
  (writes.reverse.find? fun write => write.1 = name).map (·.2)

theorem latest_cons (first : Text × Value) (writes : Writes) (name : Text) :
    latest? (first :: writes) name =
      (latest? writes name).or (if first.1 = name then some first.2 else none) := by
  rw [latest?, latest?, List.reverse_cons, List.find?_append]
  cases writes.reverse.find? fun write => write.1 = name with
  | some write => rfl
  | none =>
      rw [List.find?_singleton]
      by_cases here : first.1 = name <;> simp [here]

theorem field_put_all (entries : Entries) (writes : Writes) (name : Text) :
    field? (putAll entries writes) name = (latest? writes name).or (field? entries name) := by
  induction writes generalizing entries with
  | nil => rfl
  | cons first rest ih =>
      change field? (putAll (put entries first.1 first.2) rest) name = _
      rw [ih, field_put, latest_cons, Option.or_assoc]
      by_cases same : name = first.1
      · rw [if_pos same, if_pos same.symm]
        rfl
      · rw [if_neg same, if_neg (Ne.symm same)]
        rfl

theorem put_all_distinct (entries : Entries) (writes : Writes) (distinct : Distinct entries) :
    Distinct (putAll entries writes) := by
  induction writes generalizing entries with
  | nil => exact distinct
  | cons first rest ih => exact ih _ (put_distinct entries first.1 first.2 distinct)

theorem mem_put_all (entries : Entries) (writes : Writes) (entry : Value × Value)
    (member : entry ∈ putAll entries writes) :
    entry ∈ entries ∨ ∃ write ∈ writes, entry = (.text write.1, write.2) := by
  induction writes generalizing entries with
  | nil => exact .inl member
  | cons first rest ih =>
      rcases ih _ member with earlier | ⟨write, later, same⟩
      · rcases mem_put entries first.1 first.2 entry earlier with before | same
        · exact .inl before
        · exact .inr ⟨first, List.mem_cons_self, same⟩
      · exact .inr ⟨write, List.mem_cons_of_mem _ later, same⟩

end Value

/-! ## Overlays -/

-- What comes to lie over the value of a lower entry.
def laidOver (lower : Option Value) (upper : Value) : Value :=
  match lower, upper with
  | some (.mapping inner), .mapping upper => .mapping (overlay inner upper)
  | _, upper => upper

theorem laid_over_nothing (upper : Value) : laidOver none upper = upper := by
  cases upper <;> rfl

theorem laid_over_text (lower : Option Value) (text : Text) :
    laidOver lower (.text text) = .text text := by
  cases lower with
  | none => rfl
  | some old => cases old <;> rfl

theorem overlay_nil (lower : Value.Entries) : overlay lower [] = lower := by rw [overlay]

theorem overlay_text (lower rest : Value.Entries) (name : Text) (value : Value) :
    overlay lower ((.text name, value) :: rest) =
      overlay (Value.put lower name (laidOver (Value.field? lower name) value)) rest := by
  cases value with
  | mapping upper =>
      rw [overlay]
      cases found : Value.field? lower name with
      | none => rfl
      | some old => cases old <;> rfl
  | _ => rw [overlay.eq_def]; cases Value.field? lower name with
      | none => rfl
      | some old => cases old <;> rfl

theorem overlay_keyless (lower rest : Value.Entries) (key value : Value)
    (keyless : ∀ name, key ≠ .text name) :
    overlay lower ((key, value) :: rest) = overlay (lower ++ [(key, value)]) rest := by
  cases key with
  | text name => exact absurd rfl (keyless name)
  | _ => rw [overlay.eq_def]

theorem field_overlay (lower upper : Value.Entries) (distinct : Value.Distinct upper)
    (name : Text) :
    Value.field? (overlay lower upper) name =
      ((Value.field? upper name).map (laidOver (Value.field? lower name))).or
        (Value.field? lower name) := by
  induction upper generalizing lower with
  | nil =>
      rw [overlay_nil]
      rfl
  | cons entry rest ih =>
      obtain ⟨key, value⟩ := entry
      obtain ⟨fresh, later⟩ := List.nodup_cons.mp distinct
      by_cases named : ∃ other, key = .text other
      · obtain ⟨other, rfl⟩ := named
        rw [overlay_text, ih _ later, Value.field_put]
        by_cases same : name = other
        · subst same
          rw [if_pos rfl, (Value.field_none_iff rest name).mpr fresh, Value.field_cons,
            (Value.field_none_iff rest name).mpr fresh,
            if_pos ((Value.is_text_name name name).mpr rfl)]
          rfl
        · rw [if_neg same, Value.field_other _ _ _ _ fun here => same (Value.text.inj here).symm]
      · have keyless : ∀ other, key ≠ .text other := fun other here => named ⟨other, here⟩
        rw [overlay_keyless lower rest key value keyless, ih _ later, Value.field_append,
          Value.field_other _ _ _ _ (keyless name), Value.field_other _ _ _ _ (keyless name)]
        rfl

end KeyCustody

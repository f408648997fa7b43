import CallingService.Frontend.UpdateExpressions

/-!
# What an upsert writes

The expression, the names and the values of an upsert are generated by three
functions.  Together they merge the update, the record and the defaults, in
this order.
-/

namespace CallingService.Frontend

open Foundation

namespace UpsertableItem

def updateExpressions (item : UpsertableItem) : List String :=
  item.updateAttributes.keys.map fun k => "#" ++ k ++ " = :" ++ k

def defaultExpressions (item : UpsertableItem) : List String :=
  (item.defaultAttributes.keys.filter
    (· ∉ item.updateAttributes.keys)).map fun k =>
      "#" ++ k ++ " = if_not_exists(#" ++ k ++ ", :" ++ k ++ ")"

/-- The text that `generate_update_expression` returns. -/
def generateUpdateText (item : UpsertableItem) : Except Panic String :=
  let expressions := item.updateExpressions ++ item.defaultExpressions
  if expressions = [] then
    .error (.assertion "no attributes besides primary keys, no need for upsert")
  else .ok ("SET " ++
    ",".intercalate (expressions.mergeSort fun left right => left ≤ right))

def generateAttributeNames (item : UpsertableItem) : Table String String :=
  Table.writeAll ((item.updateAttributes.keys ++
    item.defaultAttributes.keys).map fun k => ("#" ++ k, k)) ∅

def entryValues (attributes : Item) : List (String × AttributeValue) :=
  attributes.entries.map fun entry => (":" ++ entry.1, entry.2)

/-- The map that `into_attribute_values` returns, with its placeholders. -/
def placeholderValues (item : UpsertableItem) : Item :=
  Table.writeAll (entryValues item.defaultAttributes ++
    entryValues item.updateAttributes) ∅

/-! ## The clauses -/

/-- The attributes that are assigned, each of them once. -/
def assignedKeys (item : UpsertableItem) : List String :=
  item.updateAttributes.keys ++ item.defaultAttributes.keys.filter
    (· ∉ item.updateAttributes.keys)

def clauseOf (item : UpsertableItem) (k : String) : SetClause where
  path := "#" ++ k
  operand :=
    if k ∈ item.updateAttributes.keys then .value (":" ++ k)
    else .ifNotExists ("#" ++ k) (":" ++ k)

def sortedKeys (item : UpsertableItem) : List String :=
  item.assignedKeys.mergeSort fun left right =>
    (item.clauseOf left).text ≤ (item.clauseOf right).text

def clauses (item : UpsertableItem) : List SetClause :=
  item.sortedKeys.map item.clauseOf

variable {item : UpsertableItem} {k : String}

theorem mem_assignedKeys :
    k ∈ item.assignedKeys ↔
      k ∈ item.updateAttributes.keys ∨ k ∈ item.defaultAttributes.keys := by
  unfold assignedKeys
  rw [List.mem_append, List.mem_filter, decide_eq_true_iff]
  tauto

theorem mem_sortedKeys :
    k ∈ item.sortedKeys ↔
      k ∈ item.updateAttributes.keys ∨ k ∈ item.defaultAttributes.keys :=
  (List.mergeSort_perm _ _).mem_iff.trans mem_assignedKeys

theorem nodup_sortedKeys : item.sortedKeys.Nodup := by
  refine (List.mergeSort_perm _ _).nodup_iff.mpr ?_
  unfold assignedKeys
  refine List.Nodup.append (AList.keys_nodup _)
    ((AList.keys_nodup _).filter _) ?_
  intro k isUpdate isDefault
  have isNot := (List.mem_filter.mp isDefault).2
  rw [decide_eq_true_iff] at isNot
  exact isNot isUpdate

theorem clauseOf_text_of_update (isUpdate : k ∈ item.updateAttributes.keys) :
    (item.clauseOf k).text = "#" ++ k ++ " = :" ++ k := by
  unfold clauseOf SetClause.text
  rw [if_pos isUpdate, SetOperand.text_value]
  apply String.toList_injective
  simp

theorem clauseOf_text_of_default (isDefault : k ∉ item.updateAttributes.keys) :
    (item.clauseOf k).text =
      "#" ++ k ++ " = if_not_exists(#" ++ k ++ ", :" ++ k ++ ")" := by
  unfold clauseOf SetClause.text
  rw [if_neg isDefault, SetOperand.text_ifNotExists]
  apply String.toList_injective
  simp

theorem expressions_eq_texts :
    item.updateExpressions ++ item.defaultExpressions =
      item.assignedKeys.map fun k => (item.clauseOf k).text := by
  unfold assignedKeys updateExpressions defaultExpressions
  rw [List.map_append]
  refine congrArg₂ _ (List.map_congr_left ?_) (List.map_congr_left ?_)
  · intro k isUpdate
    exact (clauseOf_text_of_update isUpdate).symm
  · intro k isDefault
    have isNot := (List.mem_filter.mp isDefault).2
    rw [decide_eq_true_iff] at isNot
    exact (clauseOf_text_of_default isNot).symm

/-- The sorted texts are those of the clauses. -/
theorem generateUpdateText_eq (present : item.assignedKeys ≠ []) :
    item.generateUpdateText =
      .ok ("SET " ++ ",".intercalate (item.clauses.map SetClause.text)) := by
  unfold generateUpdateText clauses
  dsimp only
  rw [expressions_eq_texts, if_neg (by simpa using present), List.map_map]
  unfold sortedKeys
  have sorted := @List.map_mergeSort _ _
    (fun left right : String =>
      (item.clauseOf left).text ≤ (item.clauseOf right).text)
    (fun left right => left ≤ right) (fun k => (item.clauseOf k).text)
    item.assignedKeys (fun _ _ _ _ => rfl)
  rw [← sorted]
  rfl

theorem clauses_wellFormed (words : ∀ k, k ∈ item.updateAttributes.keys ∨
      k ∈ item.defaultAttributes.keys → IsWord k) :
    ∀ clause ∈ item.clauses, clause.WellFormed := by
  intro clause member
  obtain ⟨k, isKey, rfl⟩ := List.mem_map.mp member
  have isWord := words k (mem_sortedKeys.mp isKey)
  have isPath : IsPlaceholder '#' ("#" ++ k) := ⟨k, isWord, by simp⟩
  have isValue : IsPlaceholder ':' (":" ++ k) := ⟨k, isWord, by simp⟩
  refine ⟨isPath, ?_⟩
  unfold clauseOf
  dsimp only
  split
  · exact isValue
  · exact ⟨isPath, isValue⟩

/-! ## The placeholders -/

theorem mem_generateAttributeNames {path : String} :
    path ∈ item.generateAttributeNames ↔
      path ∈ item.clauses.flatMap SetClause.paths := by
  unfold generateAttributeNames clauses
  rw [Table.mem_writeAll, List.mem_flatMap, List.map_map, List.mem_map]
  constructor
  · rintro (absurdMember | ⟨k, isKey, rfl⟩)
    · cases absurdMember
    · have assigned := mem_sortedKeys.mpr (List.mem_append.mp isKey)
      exact ⟨item.clauseOf k, List.mem_map_of_mem assigned, .head _⟩
  · rintro ⟨clause, isClause, isPath⟩
    obtain ⟨k, isKey, rfl⟩ := List.mem_map.mp isClause
    refine .inr ⟨k, List.mem_append.mpr (mem_sortedKeys.mp isKey), ?_⟩
    unfold clauseOf SetClause.paths at isPath
    dsimp only at isPath
    have same : path = "#" ++ k := by
      split at isPath
      · simpa [SetOperand.paths] using isPath
      · simpa [SetOperand.paths] using isPath
    exact same.symm

theorem clauseOf_placeholder :
    (item.clauseOf k).operand.placeholder = ":" ++ k := by
  unfold clauseOf
  dsimp only
  split
  · rfl
  · rfl

theorem map_entryValues {attributes : Item} :
    (entryValues attributes).map Prod.fst =
      attributes.keys.map (":" ++ ·) := by
  unfold entryValues AList.keys List.keys
  rw [List.map_map, List.map_map]
  rfl

theorem mem_placeholderValues {placeholder : String} :
    placeholder ∈ item.placeholderValues ↔
      placeholder ∈ item.clauses.map (·.operand.placeholder) := by
  have isPlaceholder : item.clauses.map (·.operand.placeholder) =
      item.sortedKeys.map (":" ++ ·) := by
    unfold clauses
    rw [List.map_map]
    exact List.map_congr_left fun _ _ => clauseOf_placeholder
  unfold placeholderValues
  rw [isPlaceholder, Table.mem_writeAll, List.map_append, map_entryValues,
    map_entryValues, ← List.map_append, List.mem_map, List.mem_map]
  constructor
  · rintro (absurdMember | ⟨k, isKey, rfl⟩)
    · cases absurdMember
    · exact ⟨k, mem_sortedKeys.mpr (List.mem_append.mp isKey).symm, rfl⟩
  · rintro ⟨k, isKey, rfl⟩
    exact .inr ⟨k, List.mem_append.mpr (mem_sortedKeys.mp isKey).symm, rfl⟩

theorem lookup_generateAttributeNames (isKey : k ∈ item.updateAttributes.keys ∨
      k ∈ item.defaultAttributes.keys) :
    item.generateAttributeNames.lookup ("#" ++ k) = some k := by
  refine Table.lookup_writeAll_of_mem
    (List.mem_map.mpr ⟨k, List.mem_append.mpr isKey, rfl⟩) ?_
  intro other isOther
  obtain ⟨_, _, same⟩ := List.mem_map.mp isOther
  rw [Prod.mk.injEq, String.append_right_inj] at same
  rw [← same.2, same.1]

theorem lookup_writeAll_entryValues {attributes written : Item} :
    (written.writeAll (entryValues attributes)).lookup (":" ++ k) =
      (attributes.lookup k).or (written.lookup (":" ++ k)) := by
  cases found : attributes.lookup k with
  | none =>
      refine Table.lookup_writeAll_of_notMem ?_
      rw [map_entryValues]
      rintro member
      obtain ⟨other, isKey, same⟩ := List.mem_map.mp member
      rw [String.append_right_inj] at same
      rw [← AList.mem_keys, same, ← AList.lookup_isSome, found] at isKey
      cases isKey
  | some value =>
      have isEntry : (":" ++ k, value) ∈ entryValues attributes :=
        List.mem_map.mpr ⟨⟨k, value⟩, AList.mem_lookup_iff.mp found, rfl⟩
      refine Table.lookup_writeAll_of_mem isEntry ?_
      refine Table.eq_of_mem_of_nodup ?_ isEntry
      rw [map_entryValues]
      exact (AList.keys_nodup _).map fun _ _ same =>
        (String.append_right_inj _).mp same

theorem lookup_placeholderValues :
    item.placeholderValues.lookup (":" ++ k) =
      (item.updateAttributes.lookup k).or
        (item.defaultAttributes.lookup k) := by
  unfold placeholderValues
  rw [Table.writeAll_append, lookup_writeAll_entryValues,
    lookup_writeAll_entryValues, AList.lookup_empty, Option.or_none]

/-! ## The merge -/

/-- What an attribute is after the upsert. -/
def merged (item : UpsertableItem) (record : Item) (k : String) :
    Option AttributeValue :=
  (item.updateAttributes.lookup k).or
    ((record.lookup k).or (item.defaultAttributes.lookup k))

theorem evaluate_clauseOf {record : Item}
    (isKey : k ∈ item.updateAttributes.keys ∨
      k ∈ item.defaultAttributes.keys) :
    ∃ value, (item.clauseOf k).evaluate item.generateAttributeNames
        item.placeholderValues record = some (k, value) ∧
      item.merged record k = some value := by
  unfold SetClause.evaluate clauseOf merged
  dsimp only
  rw [lookup_generateAttributeNames isKey]
  by_cases isUpdate : k ∈ item.updateAttributes.keys
  · obtain ⟨value, found⟩ :=
      Option.isSome_iff_exists.mp (AList.lookup_isSome.mpr isUpdate)
    rw [if_pos isUpdate]
    simp [lookup_placeholderValues, found]
  · have isDefault := isKey.resolve_left isUpdate
    obtain ⟨value, found⟩ :=
      Option.isSome_iff_exists.mp (AList.lookup_isSome.mpr isDefault)
    have noUpdate : item.updateAttributes.lookup k = none :=
      AList.lookup_eq_none.mpr isUpdate
    rw [if_neg isUpdate]
    cases stored : record.lookup k with
    | none =>
        simp [lookup_placeholderValues, lookup_generateAttributeNames isKey,
          found, noUpdate, stored]
    | some old =>
        simp [lookup_placeholderValues, lookup_generateAttributeNames isKey,
          found, noUpdate, stored]

/-- The attributes of some keys are assigned, the others stay. -/
theorem exists_assignments {keys : List String} {record : Item}
    {evaluate : String → Option (String × AttributeValue)}
    {merged : String → Option AttributeValue}
    (evaluates : ∀ k ∈ keys, ∃ value,
      evaluate k = some (k, value) ∧ merged k = some value)
    (others : ∀ k ∉ keys, merged k = record.lookup k) :
    ∃ assignments, keys.mapM evaluate = some assignments ∧
      assignments.map Prod.fst = keys ∧
      ∀ k, (record.writeAll assignments).lookup k = merged k := by
  have assigned : ∃ assignments, keys.mapM evaluate = some assignments ∧
      assignments.map Prod.fst = keys ∧
      ∀ {k value}, (k, value) ∈ assignments → merged k = some value := by
    clear others
    induction keys with
    | nil => exact ⟨[], rfl, rfl, fun member => by cases member⟩
    | cons k rest ih =>
        obtain ⟨assignments, evaluated, named, values⟩ :=
          ih fun other member => evaluates other (.tail _ member)
        obtain ⟨value, first, isMerged⟩ := evaluates k (.head _)
        refine ⟨(k, value) :: assignments, ?_, congrArg _ named, ?_⟩
        · rw [List.mapM_cons, first, evaluated]
          rfl
        · intro other found member
          rcases List.mem_cons.mp member with same | later
          · cases same
            exact isMerged
          · exact values later
  obtain ⟨assignments, evaluated, named, values⟩ := assigned
  refine ⟨assignments, evaluated, named, fun k => ?_⟩
  by_cases isKey : k ∈ keys
  · rw [← named] at isKey
    obtain ⟨⟨_, value⟩, member, rfl⟩ := List.mem_map.mp isKey
    have isMerged := values member
    refine (Table.lookup_writeAll_of_mem member ?_).trans isMerged.symm
    intro other isOther
    exact Option.some.inj ((values isOther).symm.trans isMerged)
  · rw [others k isKey]
    rw [← named] at isKey
    exact Table.lookup_writeAll_of_notMem isKey

theorem merged_of_not_assigned {record : Item} (isOther : k ∉ item.sortedKeys) :
    item.merged record k = record.lookup k := by
  rw [mem_sortedKeys, not_or] at isOther
  unfold merged
  rw [AList.lookup_eq_none.mpr isOther.1, AList.lookup_eq_none.mpr isOther.2,
    Option.none_or, Option.or_none]

/-- The clauses that are generated, the placeholders they use, and the record
that they lead to. -/
theorem upsert_merges {item : UpsertableItem} (record : Option Item)
    (present : item.updateAttributes.keys ≠ [] ∨
      item.defaultAttributes.keys ≠ []) :
    ∃ clauses result,
      item.generateUpdateText =
        .ok ("SET " ++ ",".intercalate (clauses.map SetClause.text)) ∧
      ((∀ k, k ∈ item.updateAttributes ∨ k ∈ item.defaultAttributes →
          IsWord k) →
        readSetExpression
            ("SET " ++ ",".intercalate (clauses.map SetClause.text)) =
          some clauses) ∧
      (∀ path, path ∈ item.generateAttributeNames ↔
        path ∈ clauses.flatMap SetClause.paths) ∧
      (∀ placeholder, placeholder ∈ item.placeholderValues ↔
        placeholder ∈ clauses.map (·.operand.placeholder)) ∧
      evaluateSet item.generateAttributeNames item.placeholderValues clauses
        (record.getD ∅) = some result ∧
      ∀ k, result.lookup k = (item.updateAttributes.lookup k).or
        (((record.getD ∅).lookup k).or
          (item.defaultAttributes.lookup k)) := by
  obtain ⟨k, isKey⟩ : ∃ k, k ∈ item.sortedKeys := by
    rcases present with isUpdate | isDefault
    · obtain ⟨k, isKey⟩ := List.exists_mem_of_ne_nil _ isUpdate
      exact ⟨k, mem_sortedKeys.mpr (.inl isKey)⟩
    · obtain ⟨k, isKey⟩ := List.exists_mem_of_ne_nil _ isDefault
      exact ⟨k, mem_sortedKeys.mpr (.inr isKey)⟩
  have isAssigned : item.assignedKeys ≠ [] :=
    List.ne_nil_of_mem (mem_assignedKeys.mpr (mem_sortedKeys.mp isKey))
  have isClause : item.clauses ≠ [] :=
    List.ne_nil_of_mem (List.mem_map_of_mem isKey)
  obtain ⟨assignments, evaluated, named, lookups⟩ :=
    @exists_assignments item.sortedKeys (record.getD ∅) _
      (item.merged (record.getD ∅))
      (fun k isKey => evaluate_clauseOf (mem_sortedKeys.mp isKey))
      (fun k isOther => merged_of_not_assigned isOther)
  refine ⟨item.clauses, (record.getD ∅).writeAll assignments,
    generateUpdateText_eq isAssigned, ?_, fun _ => mem_generateAttributeNames,
    fun _ => mem_placeholderValues, ?_, lookups⟩
  · intro words
    exact readSetExpression_text isClause (clauses_wellFormed words)
  · have distinct : (assignments.map Prod.fst).Nodup := by
      rw [named]
      exact nodup_sortedKeys
    have evaluatedClauses : item.clauses.mapM (SetClause.evaluate
        item.generateAttributeNames item.placeholderValues
          (record.getD ∅)) = some assignments := by
      unfold clauses
      rw [List.mapM_map]
      exact evaluated
    unfold evaluateSet
    rw [evaluatedClauses]
    exact if_pos ⟨fun _ isPath => mem_generateAttributeNames.mp isPath,
      fun _ isValue => mem_placeholderValues.mp isValue, distinct⟩

/-- An attribute of the update, of both, and of the defaults. -/
def overlappingItem : UpsertableItem where
  updateAttributes :=
    ((∅ : Item).insert "updateOnly" (.s "update")).insert "defaultAndUpdate"
      (.s "update")
  defaultAttributes :=
    ((∅ : Item).insert "defaultOnly" (.s "default")).insert "defaultAndUpdate"
      (.s "default")

def storedItem : Item :=
  ((∅ : Item).insert "defaultAndUpdate" (.s "stored")).insert "other"
    (.s "stored")

theorem upsert_merges_overlapping :
    ∃ clauses result,
      evaluateSet overlappingItem.generateAttributeNames
        overlappingItem.placeholderValues clauses storedItem = some result ∧
      result.lookup "updateOnly" = some (.s "update") ∧
      result.lookup "defaultAndUpdate" = some (.s "update") ∧
      result.lookup "defaultOnly" = some (.s "default") ∧
      result.lookup "other" = some (.s "stored") := by
  obtain ⟨clauses, result, _, _, _, _, evaluated, lookups⟩ :=
    @upsert_merges overlappingItem (some storedItem) (.inl (by decide))
  refine ⟨clauses, result, evaluated, ?_, ?_, ?_, ?_⟩
  · rw [lookups]
    decide
  · rw [lookups]
    decide
  · rw [lookups]
    decide
  · rw [lookups]
    decide

/-! ## The update of the table -/

theorem applySetActions_eq {values old item : Item}
    {actions : List SetAction} :
    applySetActions values old actions item =
      (actions.mapM (SetAction.evaluate values old)).map
        (fun assignments => item.writeAll assignments) := by
  induction actions generalizing item with
  | nil => rfl
  | cons action rest ih =>
      rw [applySetActions, List.mapM_cons]
      cases action.evaluate values old with
      | none => rfl
      | some assigned =>
          dsimp only [Option.bind_eq_bind, Option.bind_some]
          rw [ih]
          cases rest.mapM (SetAction.evaluate values old) with
          | none => rfl
          | some assignments => rfl

def actionOf (item : UpsertableItem) (k : String) : SetAction :=
  if k ∈ item.updateAttributes.keys then .assign k else .assignIfNotExists k

theorem generateUpdateExpression_eq {actions : List SetAction}
    (generated : item.generateUpdateExpression = .ok actions) :
    actions = item.assignedKeys.map item.actionOf := by
  unfold generateUpdateExpression at generated
  dsimp only at generated
  split at generated
  · cases generated
  · cases generated
    unfold assignedKeys
    rw [List.map_append]
    refine congrArg₂ _ (List.map_congr_left ?_) (List.map_congr_left ?_)
    · intro k isUpdate
      exact (if_pos isUpdate).symm
    · intro k isDefault
      have isNot := (List.mem_filter.mp isDefault).2
      rw [decide_eq_true_iff] at isNot
      exact (if_neg isNot).symm

theorem lookup_intoAttributeValues :
    item.intoAttributeValues.lookup k =
      (item.updateAttributes.lookup k).or
        (item.defaultAttributes.lookup k) := by
  unfold intoAttributeValues
  by_cases isUpdate : k ∈ item.updateAttributes
  · obtain ⟨value, found⟩ :=
      Option.isSome_iff_exists.mp (AList.lookup_isSome.mpr isUpdate)
    rw [AList.lookup_union_left isUpdate, found, Option.some_or]
  · rw [AList.lookup_union_right isUpdate, AList.lookup_eq_none.mpr isUpdate,
      Option.none_or]

theorem evaluate_actionOf {record : Item}
    (isKey : k ∈ item.updateAttributes.keys ∨
      k ∈ item.defaultAttributes.keys) :
    ∃ value, (item.actionOf k).evaluate item.intoAttributeValues record =
        some (k, value) ∧ item.merged record k = some value := by
  unfold actionOf merged
  by_cases isUpdate : k ∈ item.updateAttributes.keys
  · obtain ⟨value, found⟩ :=
      Option.isSome_iff_exists.mp (AList.lookup_isSome.mpr isUpdate)
    rw [if_pos isUpdate, SetAction.evaluate, lookup_intoAttributeValues]
    simp [found]
  · obtain ⟨value, found⟩ := Option.isSome_iff_exists.mp
      (AList.lookup_isSome.mpr (isKey.resolve_left isUpdate))
    have noUpdate : item.updateAttributes.lookup k = none :=
      AList.lookup_eq_none.mpr isUpdate
    rw [if_neg isUpdate, SetAction.evaluate, lookup_intoAttributeValues,
      noUpdate]
    cases stored : record.lookup k with
    | none => simp [found]
    | some old => simp

/-- The assignments without placeholders have the same effect. -/
theorem updateItem_merges {table : DynamoTable} {key : ItemKey}
    {actions : List SetAction}
    (generated : item.generateUpdateExpression = .ok actions) :
    ∃ result, updateItem table none key actions item.intoAttributeValues =
        (table.insert key result, .ok result) ∧
      ∀ k, result.lookup k = item.merged
        ((table.lookup key).getD (keyAttributes key)) k := by
  obtain ⟨assignments, evaluated, _, lookups⟩ :=
    @exists_assignments item.assignedKeys
      ((table.lookup key).getD (keyAttributes key)) _ (item.merged _)
      (fun k isKey => evaluate_actionOf (mem_assignedKeys.mp isKey))
      (fun k isOther => merged_of_not_assigned fun isKey =>
        isOther (mem_assignedKeys.mpr (mem_sortedKeys.mp isKey)))
  refine ⟨_, ?_, lookups⟩
  have evaluatedActions : actions.mapM
      (SetAction.evaluate item.intoAttributeValues
        ((table.lookup key).getD (keyAttributes key))) = some assignments := by
    rw [generateUpdateExpression_eq generated, List.mapM_map]
    exact evaluated
  unfold updateItem
  dsimp only
  rw [applySetActions_eq, evaluatedActions]
  rfl

end UpsertableItem

end CallingService.Frontend

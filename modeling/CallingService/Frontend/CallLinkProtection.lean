import CallingService.Frontend.CallLinkStorage
import CallingService.Foundation.Run

/-!
# Protection of call links

The admin passkey of a call link protects it: a request without the stored one
changes nothing that matters, and the passkey itself never changes.  The two
requests that need no passkey write their own attributes of an existing link
only.
-/

namespace CallingService.Frontend

open Foundation

/-! ## What a conditional update does -/

theorem updateItemIf_cases (table : DynamoTable) (fault : Option Fault)
    (key : ItemKey) (condition : Condition) (update : UpdateExpression)
    (values : Item) :
    (updateItemIf table fault key condition update values).1 = table ∨
    ∃ item, conditionHolds table key values condition = true ∧
      update.apply values ((table.lookup key).getD (keyAttributes key)) =
        some item ∧
      (updateItemIf table fault key condition update values).1 =
        table.insert key item := by
  unfold updateItemIf
  cases fault with
  | some injected => exact .inl rfl
  | none =>
      dsimp only
      split
      · exact .inl rfl
      · split
        · rename_i holds
          split
          · exact .inl rfl
          · rename_i item applied
            exact .inr ⟨item, holds, applied, rfl⟩
        · exact .inl rfl

theorem storedAttributes_of_none {table : DynamoTable} {key : ItemKey}
    (absent : table.lookup key = none) : storedAttributes table key = ∅ := by
  unfold storedAttributes
  rw [absent]

theorem lookup_storedAttributes {table : DynamoTable} {key : ItemKey}
    {item : Item} {name : String} (stored : table.lookup key = some item)
    (noKey : name ∉ ["roomId", "recordType"]) :
    (storedAttributes table key).lookup name = item.lookup name := by
  unfold storedAttributes
  rw [stored]
  apply AList.lookup_union_right
  intro isKey
  have present := AList.lookup_isSome.mpr isKey
  unfold keyAttributes at present
  rw [AList.lookup_insert_ne (fun same => noKey (by simp [same])),
    AList.lookup_insert_ne (fun same => noKey (by simp [same]))] at present
  cases present

/-- An attribute keeps its value, is assigned one, or gets a default. -/
theorem lookup_applySetActions {values old : Item}
    {actions : List SetAction} {item result : Item}
    (applied : applySetActions values old actions item = some result)
    (name : String) :
    result.lookup name = item.lookup name ∨
    (.assign name ∈ actions ∧ result.lookup name = values.lookup name) ∨
    (.assignIfNotExists name ∈ actions ∧
      result.lookup name = (old.lookup name).or (values.lookup name)) := by
  induction actions generalizing item with
  | nil =>
      cases applied
      exact .inl rfl
  | cons action rest ih =>
      obtain ⟨⟨assigned, value⟩, evaluated, applied⟩ :=
        Option.bind_eq_some_iff.mp applied
      rcases ih applied with kept | ⟨isAction, isValue⟩ | ⟨isAction, isValue⟩
      · by_cases same : name = assigned
        · subst same
          rw [AList.lookup_insert] at kept
          cases action with
          | assign other =>
              obtain ⟨found, isFound, isPair⟩ :=
                Option.map_eq_some_iff.mp evaluated
              cases isPair
              exact .inr (.inl ⟨List.mem_cons_self, by rw [kept, isFound]⟩)
          | assignIfNotExists other =>
              obtain ⟨found, isFound, isPair⟩ :=
                Option.map_eq_some_iff.mp evaluated
              cases isPair
              exact .inr (.inr ⟨List.mem_cons_self, by rw [kept, isFound]⟩)
        · rw [AList.lookup_insert_ne same] at kept
          exact .inl kept
      · exact .inr (.inl ⟨List.mem_cons_of_mem _ isAction, isValue⟩)
      · exact .inr (.inr ⟨List.mem_cons_of_mem _ isAction, isValue⟩)

def SetAction.name : SetAction → String
  | .assign name => name
  | .assignIfNotExists name => name

theorem SetAction.evaluate_name {values old : Item} {action : SetAction}
    {result : String × AttributeValue}
    (evaluated : action.evaluate values old = some result) :
    result.1 = action.name := by
  cases action with
  | assign _ | assignIfNotExists _ =>
      obtain ⟨_, _, isPair⟩ := Option.map_eq_some_iff.mp evaluated
      cases isPair
      rfl

/-- Attributes stay, and those of the expression are there. -/
theorem isSome_applySetActions {values old : Item}
    {actions : List SetAction} {item result : Item}
    (applied : applySetActions values old actions item = some result)
    {name : String}
    (present : (item.lookup name).isSome ∨
      name ∈ actions.map SetAction.name) : (result.lookup name).isSome := by
  induction actions generalizing item with
  | nil =>
      cases applied
      rcases present with present | absurdMember
      · exact present
      · cases absurdMember
  | cons action rest ih =>
      obtain ⟨⟨assigned, value⟩, evaluated, applied⟩ :=
        Option.bind_eq_some_iff.mp applied
      have isName : assigned = action.name := SetAction.evaluate_name evaluated
      apply ih applied
      by_cases same : name = assigned
      · left
        subst same
        rw [AList.lookup_insert]
        rfl
      · rcases present with present | member
        · left
          rw [AList.lookup_insert_ne same]
          exact present
        · rcases List.mem_cons.mp member with isThis | later
          · exact absurd (isThis.trans isName.symm) same
          · exact .inr later

theorem lookup_removeAttributes (names : List String) (item : Item)
    {name : String} (kept : name ∉ names) :
    (removeAttributes item names).lookup name = item.lookup name := by
  unfold removeAttributes
  induction names generalizing item with
  | nil => rfl
  | cons removed rest ih =>
      have other : name ≠ removed := by
        rintro rfl
        exact kept List.mem_cons_self
      have keptByRest : name ∉ rest :=
        fun inRest => kept (List.mem_cons_of_mem _ inRest)
      rw [List.foldl_cons, ih _ keptByRest, AList.lookup_erase_ne other]

/-! ## The items of an update -/

theorem lookup_insertIfSome_ne {name other : String} (different : name ≠ other)
    (value : Option AttributeValue) (item : Item) :
    (insertIfSome other value item).lookup name = item.lookup name := by
  cases value with
  | none => rfl
  | some present => exact AList.lookup_insert_ne different

theorem lookup_toItem_adminPasskey (update : CallLinkUpdate) :
    update.toItem.lookup "adminPasskey" = some (.b update.adminPasskey) := by
  unfold CallLinkUpdate.toItem
  rw [lookup_insertIfSome_ne (by decide), lookup_insertIfSome_ne (by decide),
    lookup_insertIfSome_ne (by decide), AList.lookup_insert]

theorem lookup_toItem_zkparams (update : CallLinkUpdate) :
    update.toItem.lookup "zkparams" = none := by
  unfold CallLinkUpdate.toItem
  rw [lookup_insertIfSome_ne (by decide), lookup_insertIfSome_ne (by decide),
    lookup_insertIfSome_ne (by decide), AList.lookup_insert_ne (by decide)]
  rfl

/-- The values of an upsert are those of the update, and the defaults where
the update has none. -/
theorem lookup_intoAttributeValues_of_update {item : UpsertableItem}
    {name : String} {value : AttributeValue}
    (isUpdate : item.updateAttributes.lookup name = some value) :
    item.intoAttributeValues.lookup name = some value := by
  unfold UpsertableItem.intoAttributeValues
  rw [AList.lookup_union_left (AList.lookup_isSome.mp (by simp [isUpdate]))]
  exact isUpdate

/-- Only the attributes of the update are assigned in any case. -/
theorem mem_updateAttributes_of_assign {item : UpsertableItem}
    {expression : List SetAction}
    (generated : item.generateUpdateExpression = .ok expression)
    {name : String} (assigned : .assign name ∈ expression) :
    name ∈ item.updateAttributes.keys := by
  unfold UpsertableItem.generateUpdateExpression at generated
  dsimp only at generated
  split at generated
  · cases generated
  · cases generated
    rcases List.mem_append.mp assigned with isUpdate | isDefault
    · obtain ⟨other, isKey, same⟩ := List.mem_map.mp isUpdate
      cases same
      exact isKey
    · obtain ⟨other, _, same⟩ := List.mem_map.mp isDefault
      cases same

theorem name_mem_generated {item : UpsertableItem}
    {expression : List SetAction}
    (generated : item.generateUpdateExpression = .ok expression)
    {name : String}
    (present : name ∈ item.updateAttributes.keys ∨
      name ∈ item.defaultAttributes.keys) :
    name ∈ expression.map SetAction.name := by
  unfold UpsertableItem.generateUpdateExpression at generated
  dsimp only at generated
  split at generated
  · cases generated
  · cases generated
    rw [List.map_append, List.map_map, List.map_map]
    by_cases isUpdate : name ∈ item.updateAttributes.keys
    · exact List.mem_append_left _
        (List.mem_map.mpr ⟨name, isUpdate, rfl⟩)
    · rcases present with present | isDefault
      · exact absurd present isUpdate
      · apply List.mem_append_right
        apply List.mem_map.mpr
        exact ⟨name, List.mem_filter.mpr ⟨isDefault, by simpa using isUpdate⟩,
          rfl⟩

/-! ## Requests on one call link -/

inductive LinkRequest where
  | updateCallLink (newAttributes : CallLinkUpdate)
      (zkparamsForCreation : Option Bytes) (now : SystemTime)
      (fault : Option Fault)
  | deleteCallLink (adminPasskey : Bytes) (fault : Option Fault)
  | resetCallLinkExpiration (now : SystemTime) (fault : Option Fault)
  | updateCallLinkApprovedUsers (approvedUsers : List UserId)
      (fault : Option Fault)

/-- The admin passkey that a request carries. -/
def LinkRequest.passkey : LinkRequest → Option Bytes
  | .updateCallLink newAttributes _ _ _ => some newAttributes.adminPasskey
  | .deleteCallLink adminPasskey _ => some adminPasskey
  | _ => none

/-- The attributes that a request without a passkey may write. -/
def LinkRequest.ownAttributes : LinkRequest → List String
  | .resetCallLinkExpiration _ _ => ["expiration", "deleteAt"]
  | .updateCallLinkApprovedUsers _ _ => ["approvedUsers"]
  | _ => []

variable (timestampSeconds : SystemTime → Int) (roomId : RoomId)

def LinkStep (before : DynamoTable) (request : LinkRequest)
    (after : DynamoTable) : Prop :=
  match request with
  | .updateCallLink newAttributes zkparamsForCreation now fault =>
      ∃ progress, updateCallLink timestampSeconds before fault roomId
        newAttributes zkparamsForCreation now = .ok (after, progress)
  | .deleteCallLink adminPasskey fault =>
      after = (deleteCallLink before fault roomId adminPasskey).1
  | .resetCallLinkExpiration now fault =>
      ∃ outcome, resetCallLinkExpiration timestampSeconds before fault roomId
        now = .ok (after, outcome)
  | .updateCallLinkApprovedUsers approvedUsers fault =>
      after = (updateCallLinkApprovedUsers before fault roomId
        approvedUsers).1

/-- A stored link has a passkey and parameters. -/
def HasIdentity (table : DynamoTable) : Prop :=
  ∀ item, table.lookup (callLinkKey roomId) = some item →
    (item.lookup "adminPasskey").isSome ∧ (item.lookup "zkparams").isSome

/-- The attributes that only an admin may change. -/
def adminAttributes : List String := ["restrictions", "encryptedName", "revoked"]

/-- What a request may do to the stored link. -/
structure Protected (request : LinkRequest) (before after : Option Item) :
    Prop where
  identity : ∀ {old new}, before = some old → after = some new →
    new.lookup "adminPasskey" = old.lookup "adminPasskey" ∧
      new.lookup "zkparams" = old.lookup "zkparams"
  admin : ∀ {old new name}, before = some old → after = some new →
    name ∈ adminAttributes → new.lookup name ≠ old.lookup name →
      ∃ passkey, request.passkey = some passkey ∧
        old.lookup "adminPasskey" = some (.b passkey)
  deletion : ∀ {old}, before = some old → after = none →
    ∃ passkey, request.passkey = some passkey ∧
      old.lookup "adminPasskey" = some (.b passkey)
  own : request.passkey = none →
    (before = none → after = none) ∧
    ∀ {old new}, before = some old → after = some new →
      ∀ name ∉ request.ownAttributes, new.lookup name = old.lookup name

theorem Protected.same (request : LinkRequest) (item : Option Item) :
    Protected request item item where
  identity := by
    rintro old new rfl isNew
    cases isNew
    exact ⟨rfl, rfl⟩
  admin := by
    rintro old new name rfl isNew _ changed
    cases isNew
    exact absurd rfl changed
  deletion := by
    rintro old rfl isNone
    cases isNone
  own := by
    intro _
    refine ⟨fun absent => absent, ?_⟩
    rintro old new rfl isNew name _
    cases isNew
    rfl

/-! ## Each request protects the link -/

variable {timestampSeconds : SystemTime → Int} {roomId : RoomId}

/-- An update that reaches an existing link carries its passkey. -/
theorem passkey_of_condition {newAttributes : CallLinkUpdate}
    {zkparamsForCreation : Option Bytes} {now : SystemTime}
    {request : UpsertableItem × Condition} {old : Item}
    (built : updateCallLinkRequest timestampSeconds newAttributes
      zkparamsForCreation now = .ok request)
    (hasPasskey : (old.lookup "adminPasskey").isSome)
    (holds : request.2.holds request.1.intoAttributeValues old = true) :
    old.lookup "adminPasskey" = some (.b newAttributes.adminPasskey) := by
  have value : ∀ defaults : Item,
      (UpsertableItem.mk newAttributes.toItem
        defaults).intoAttributeValues.lookup "adminPasskey" =
          some (.b newAttributes.adminPasskey) := by
    intro defaults
    apply lookup_intoAttributeValues_of_update
    exact lookup_toItem_adminPasskey newAttributes
  cases zkparamsForCreation with
  | none =>
      cases built
      have equal := (Bool.and_eq_true_iff.mp holds).2
      rw [value] at equal
      exact of_decide_eq_true equal
  | some zkparams =>
      obtain ⟨created, _, returned⟩ := bind_eq_ok_iff.mp built
      cases returned
      have either := (Bool.and_eq_true_iff.mp holds).1
      rcases (Bool.or_eq_true_iff.mp either) with equals | absent
      · have equal := (Bool.and_eq_true_iff.mp equals).2
        rw [value] at equal
        exact of_decide_eq_true equal
      · obtain ⟨stored, isStored⟩ := Option.isSome_iff_exists.mp hasPasskey
        have isNone : (old.lookup "adminPasskey").isNone = true := absent
        rw [isStored] at isNone
        cases isNone

theorem updateAttributes_of_request {newAttributes : CallLinkUpdate}
    {zkparamsForCreation : Option Bytes} {now : SystemTime}
    {request : UpsertableItem × Condition}
    (built : updateCallLinkRequest timestampSeconds newAttributes
      zkparamsForCreation now = .ok request) :
    request.1.updateAttributes = newAttributes.toItem := by
  cases zkparamsForCreation with
  | none =>
      cases built
      rfl
  | some zkparams =>
      obtain ⟨created, _, returned⟩ := bind_eq_ok_iff.mp built
      cases returned
      rfl

/-- A link is only created together with its parameters. -/
theorem zkparams_mem_of_creation {newAttributes : CallLinkUpdate}
    {zkparamsForCreation : Option Bytes} {now : SystemTime}
    {request : UpsertableItem × Condition}
    (built : updateCallLinkRequest timestampSeconds newAttributes
      zkparamsForCreation now = .ok request)
    (holds : request.2.holds request.1.intoAttributeValues ∅ = true) :
    "zkparams" ∈ request.1.defaultAttributes.keys := by
  cases zkparamsForCreation with
  | none =>
      cases built
      cases holds
  | some zkparams =>
      obtain ⟨created, isNew, returned⟩ := bind_eq_ok_iff.mp built
      cases returned
      obtain ⟨times, _, returned⟩ := bind_eq_ok_iff.mp isNew
      cases returned
      apply AList.lookup_isSome.mp
      unfold CallLinkState.toItem
      rw [if_pos rfl, AList.lookup_insert_ne (by decide), AList.lookup_insert]
      rfl

theorem protected_updateCallLink {before after : DynamoTable}
    {newAttributes : CallLinkUpdate} {zkparamsForCreation : Option Bytes}
    {now : SystemTime} {fault : Option Fault} {progress : UpdateProgress}
    (identified : HasIdentity roomId before)
    (updated : updateCallLink timestampSeconds before fault roomId
      newAttributes zkparamsForCreation now = .ok (after, progress)) :
    Protected (.updateCallLink newAttributes zkparamsForCreation now fault)
        (before.lookup (callLinkKey roomId))
        (after.lookup (callLinkKey roomId)) ∧
      HasIdentity roomId after := by
  obtain ⟨request, built, rest⟩ := bind_eq_ok_iff.mp updated
  obtain ⟨expression, generated, returned⟩ := bind_eq_ok_iff.mp rest
  cases returned
  rcases updateItemIf_cases before fault (callLinkKey roomId) request.2
      (.set expression) request.1.intoAttributeValues with
    same | ⟨item, holds, applied, written⟩
  · rw [same]
    exact ⟨.same _ _, identified⟩
  rw [written]
  have isUpdate := updateAttributes_of_request built
  have names : ∀ {name}, name ∈ request.1.updateAttributes.keys ∨
      name ∈ request.1.defaultAttributes.keys →
        (item.lookup name).isSome := fun present =>
    isSome_applySetActions applied (.inr (name_mem_generated generated present))
  have hasPasskey : (item.lookup "adminPasskey").isSome := by
    apply names
    left
    rw [isUpdate]
    exact AList.lookup_isSome.mp (by simp [lookup_toItem_adminPasskey])
  rw [AList.lookup_insert]
  cases stored : before.lookup (callLinkKey roomId) with
  | none =>
      rw [conditionHolds, storedAttributes_of_none stored] at holds
      refine ⟨⟨by simp, by simp, by simp, by simp [LinkRequest.passkey]⟩, ?_⟩
      intro other isOther
      rw [AList.lookup_insert] at isOther
      cases isOther
      exact ⟨hasPasskey,
        names (.inr (zkparams_mem_of_creation built holds))⟩
  | some old =>
      rw [stored, Option.getD_some] at applied
      obtain ⟨oldPasskey, oldZkparams⟩ := identified old stored
      have sameStored := @lookup_storedAttributes _ _ _ "adminPasskey" stored
        (by decide)
      have carried : old.lookup "adminPasskey" =
          some (.b newAttributes.adminPasskey) := by
        rw [← sameStored] at oldPasskey ⊢
        exact passkey_of_condition built oldPasskey holds
      have identity : item.lookup "adminPasskey" =
            old.lookup "adminPasskey" ∧
          item.lookup "zkparams" = old.lookup "zkparams" := by
        constructor
        · rcases lookup_applySetActions applied "adminPasskey" with
            kept | ⟨_, assigned⟩ | ⟨_, defaulted⟩
          · exact kept
          · rw [assigned, carried]
            apply lookup_intoAttributeValues_of_update
            rw [isUpdate]
            exact lookup_toItem_adminPasskey newAttributes
          · rw [defaulted, carried, Option.some_or]
        · rcases lookup_applySetActions applied "zkparams" with
            kept | ⟨assigned, _⟩ | ⟨_, defaulted⟩
          · exact kept
          · have isKey := mem_updateAttributes_of_assign generated assigned
            rw [isUpdate] at isKey
            have isSome := AList.lookup_isSome.mpr isKey
            rw [lookup_toItem_zkparams] at isSome
            cases isSome
          · obtain ⟨zkparams, isStored⟩ :=
              Option.isSome_iff_exists.mp oldZkparams
            rw [defaulted, isStored, Option.some_or]
      refine ⟨⟨?_, ?_, by simp, by simp [LinkRequest.passkey]⟩, ?_⟩
      · rintro _ _ ⟨⟩ ⟨⟩
        exact identity
      · rintro _ _ name ⟨⟩ ⟨⟩ _ _
        exact ⟨newAttributes.adminPasskey, rfl, carried⟩
      · intro other isOther
        rw [AList.lookup_insert] at isOther
        cases isOther
        rw [identity.1, identity.2]
        exact ⟨oldPasskey, oldZkparams⟩

theorem protected_deleteCallLink {before : DynamoTable}
    {adminPasskey : Bytes} {fault : Option Fault}
    (identified : HasIdentity roomId before) :
    Protected (.deleteCallLink adminPasskey fault)
        (before.lookup (callLinkKey roomId))
        ((deleteCallLink before fault roomId adminPasskey).1.lookup
          (callLinkKey roomId)) ∧
      HasIdentity roomId
        (deleteCallLink before fault roomId adminPasskey).1 := by
  unfold deleteCallLink transactDeleteAndCheck
  cases fault with
  | some injected => exact ⟨.same _ _, identified⟩
  | none =>
      dsimp only
      split
      · rename_i passes
        have mayDelete := (Bool.and_eq_true_iff.mp passes).1
        rw [AList.lookup_erase]
        refine ⟨⟨by simp, by simp, ?_, by simp [LinkRequest.passkey]⟩, ?_⟩
        · intro old stored _
          have equal := (Bool.and_eq_true_iff.mp mayDelete).2
          rw [AList.lookup_insert, lookup_storedAttributes stored (by decide)]
            at equal
          exact ⟨adminPasskey, rfl, of_decide_eq_true equal⟩
        · intro item stored
          rw [AList.lookup_erase] at stored
          cases stored
      · exact ⟨.same _ _, identified⟩

/-- An update of an existing item that leaves the passkey, the parameters and
all but its own attributes alone. -/
theorem protected_of_own {before : DynamoTable} {request : LinkRequest}
    {fault : Option Fault} {update : UpdateExpression} {values : Item}
    {ownNames : List String} (identified : HasIdentity roomId before)
    (isOwn : request.ownAttributes = ownNames)
    (foreign : ∀ name ∈ "adminPasskey" :: "zkparams" :: adminAttributes,
      name ∉ ownNames)
    (onlyOwn : ∀ {old new : Item}, update.apply values old = some new →
      ∀ name ∉ ownNames, new.lookup name = old.lookup name) :
    Protected request (before.lookup (callLinkKey roomId))
        ((updateItemIf before fault (callLinkKey roomId)
          (.attributeExists "recordType") update values).1.lookup
            (callLinkKey roomId)) ∧
      HasIdentity roomId (updateItemIf before fault (callLinkKey roomId)
        (.attributeExists "recordType") update values).1 := by
  rcases updateItemIf_cases before fault (callLinkKey roomId)
      (.attributeExists "recordType") update values with
    same | ⟨item, holds, applied, written⟩
  · rw [same]
    exact ⟨.same _ _, identified⟩
  rw [written, AList.lookup_insert]
  cases stored : before.lookup (callLinkKey roomId) with
  | none =>
      -- Without an item the condition fails.
      rw [conditionHolds, storedAttributes_of_none stored] at holds
      cases holds
  | some old =>
      rw [stored, Option.getD_some] at applied
      have kept := onlyOwn applied
      have passkey := kept "adminPasskey" (foreign _ (by simp))
      have zkparams := kept "zkparams" (foreign _ (by simp))
      refine ⟨⟨?_, ?_, by simp, ?_⟩, ?_⟩
      · rintro _ _ ⟨⟩ ⟨⟩
        exact ⟨passkey, zkparams⟩
      · rintro _ _ name ⟨⟩ ⟨⟩ isAdmin changed
        exact absurd (kept name (foreign name (by simp [isAdmin]))) changed
      · intro _
        refine ⟨by simp, ?_⟩
        rintro _ _ ⟨⟩ ⟨⟩ name notOwn
        rw [isOwn] at notOwn
        exact kept name notOwn
      · intro other isOther
        rw [AList.lookup_insert] at isOther
        cases isOther
        rw [passkey, zkparams]
        exact identified old stored

theorem lookup_apply_assign {values old new : Item} {names : List String}
    (applied : (UpdateExpression.set (names.map .assign)).apply values old =
      some new) {name : String} (notAssigned : name ∉ names) :
    new.lookup name = old.lookup name := by
  rcases lookup_applySetActions applied name with
    kept | ⟨assigned, _⟩ | ⟨defaulted, _⟩
  · exact kept
  · obtain ⟨other, isName, same⟩ := List.mem_map.mp assigned
    cases same
    exact absurd isName notAssigned
  · obtain ⟨other, _, same⟩ := List.mem_map.mp defaulted
    cases same

theorem protected_resetCallLinkExpiration {before after : DynamoTable}
    {now : SystemTime} {fault : Option Fault}
    {outcome : Except CallLinkUpdateError Unit}
    (identified : HasIdentity roomId before)
    (reset : resetCallLinkExpiration timestampSeconds before fault roomId
      now = .ok (after, outcome)) :
    Protected (.resetCallLinkExpiration now fault)
        (before.lookup (callLinkKey roomId))
        (after.lookup (callLinkKey roomId)) ∧
      HasIdentity roomId after := by
  obtain ⟨times, _, returned⟩ := bind_eq_ok_iff.mp reset
  cases returned
  refine @protected_of_own _ _ _ _ _ _ ["expiration", "deleteAt"] identified
    rfl (by decide) ?_
  intro old new applied name notOwn
  exact @lookup_apply_assign _ _ _ ["expiration", "deleteAt"] applied _ notOwn

theorem protected_updateCallLinkApprovedUsers {before : DynamoTable}
    {approvedUsers : List UserId} {fault : Option Fault}
    (identified : HasIdentity roomId before) :
    Protected (.updateCallLinkApprovedUsers approvedUsers fault)
        (before.lookup (callLinkKey roomId))
        ((updateCallLinkApprovedUsers before fault roomId
          approvedUsers).1.lookup (callLinkKey roomId)) ∧
      HasIdentity roomId (updateCallLinkApprovedUsers before fault roomId
        approvedUsers).1 := by
  unfold updateCallLinkApprovedUsers
  dsimp only
  split
  · refine @protected_of_own _ _ _ _ _ _ ["approvedUsers"] identified rfl
      (by decide) ?_
    intro old new applied name notOwn
    cases applied
    exact lookup_removeAttributes _ _ notOwn
  · refine @protected_of_own _ _ _ _ _ _ ["approvedUsers"] identified rfl
      (by decide) ?_
    intro old new applied name notOwn
    exact @lookup_apply_assign _ _ _ ["approvedUsers"] applied _ notOwn

theorem LinkStep.protected {before after : DynamoTable}
    {request : LinkRequest} (identified : HasIdentity roomId before)
    (step : LinkStep timestampSeconds roomId before request after) :
    Protected request (before.lookup (callLinkKey roomId))
        (after.lookup (callLinkKey roomId)) ∧
      HasIdentity roomId after := by
  cases request with
  | updateCallLink newAttributes zkparamsForCreation now fault =>
      obtain ⟨progress, updated⟩ := step
      exact protected_updateCallLink identified updated
  | deleteCallLink adminPasskey fault =>
      rw [show after = _ from step]
      exact protected_deleteCallLink identified
  | resetCallLinkExpiration now fault =>
      obtain ⟨outcome, reset⟩ := step
      exact protected_resetCallLinkExpiration identified reset
  | updateCallLinkApprovedUsers approvedUsers fault =>
      rw [show after = _ from step]
      exact protected_updateCallLinkApprovedUsers identified

/-- Every request of every run protects the stored link. -/
theorem callLink_protected {start before after : DynamoTable}
    {requests : List LinkRequest} {request : LinkRequest}
    (identified : HasIdentity roomId start)
    (run : Run (LinkStep timestampSeconds roomId) start requests before)
    (step : LinkStep timestampSeconds roomId before request after) :
    Protected request (before.lookup (callLinkKey roomId))
      (after.lookup (callLinkKey roomId)) := by
  have stillIdentified : HasIdentity roomId before := by
    apply run.invariant identified
    intro state _ next stateIdentified stateStep
    exact (stateStep.protected stateIdentified).2
  exact (step.protected stillIdentified).1

/-- A link is created; then comes an update that carries another passkey. -/
theorem callLink_protected_other_passkey :
    let seconds : SystemTime → Int := fun time => time.nanos / 1000000000
    let attack : LinkRequest :=
      .updateCallLink ⟨[2], some .adminApproval, none, none⟩ none
        SystemTime.unixEpoch none
    ∃ (requests : List LinkRequest) (created after : DynamoTable),
      Run (LinkStep seconds "00") ∅ requests created ∧
      LinkStep seconds "00" created attack after ∧
      (created.lookup (callLinkKey "00")).isSome ∧
      Protected attack (created.lookup (callLinkKey "00"))
        (after.lookup (callLinkKey "00")) := by
  intro seconds attack
  have identified : HasIdentity "00" ∅ := by
    intro item stored
    cases stored
  have creation : ∃ created progress,
      updateCallLink seconds ∅ none "00" ⟨[1], none, none, none⟩ (some [7])
          SystemTime.unixEpoch = .ok (created, progress) ∧
        (created.lookup (callLinkKey "00")).isSome :=
    ⟨_, _, rfl, by decide +kernel⟩
  obtain ⟨created, progress, updated, present⟩ := creation
  have run : Run (LinkStep seconds "00") ∅
      [.updateCallLink ⟨[1], none, none, none⟩ (some [7])
        SystemTime.unixEpoch none] created :=
    .snoc .nil ⟨progress, updated⟩
  have attacked : ∃ after, LinkStep seconds "00" created attack after :=
    ⟨_, _, rfl⟩
  obtain ⟨after, step⟩ := attacked
  exact ⟨_, created, after, run, step, present,
    callLink_protected identified run step⟩

end CallingService.Frontend

import ProductionClosure.PackageManager.Operation
import ProductionClosure.Proofs.Outcome

/-!
What an action asks for. Its parameters name an operation, or something else that gets a refusal, or
they hold a value that can be neither looked up among the names nor shown in a refusal: a container,
or an integer with too many digits.
-/

namespace ProductionClosure

def Operation.name : Operation → String
  | .ls => "ls"
  | .version => "version"

/-- An action that can be carried out: its parameters name the operation, and its folder is there. -/
structure ActionContext.Asks (files : FileSystem) (context : ActionContext)
    (operation : Operation) : Prop where
  named : context.action.params.get? "operation" = some (.string operation.name)
  folder : files.isDirectoryText context.folder = true

/-- Parameters whose operation can be neither looked up nor shown, with the failure to do so. -/
inductive Operation.Unfit (params : Json.Members) : Failure → Prop where
  | array {item : Json} {items : List Json}
      (h : params.get? "operation" = some (.array (item :: items))) : Unfit params (.unhashable "list")
  | object {member : String × Json} {members : Json.Members}
      (h : params.get? "operation" = some (.object (member :: members))) :
      Unfit params (.unhashable "dict")
  | integer {n : Int} (h : params.get? "operation" = some (.int n))
      (hlong : Json.isTooLong n = true) : Unfit params .integerNotShown

/-! ### The operation asked for -/

namespace Operation

theorem tenTo_pos (power : Nat) : 0 < Binary64.tenTo power := Nat.pow_pos (by decide)

theorem ne_zero_of_isTooLong {n : Int} (h : Json.isTooLong n = true) : n ≠ 0 := by
  rintro rfl
  have hle : Binary64.tenTo Json.maxIntegerDigits ≤ 0 := of_decide_eq_true h
  exact absurd hle (Nat.not_le_of_gt (tenTo_pos _))

theorem lookup_named_eq_some {text : String} {operation : Operation} :
    named.lookup text = some operation ↔ text = operation.name := by
  by_cases hls : text = "ls"
  · subst hls
    cases operation <;> decide
  · by_cases hversion : text = "version"
    · subst hversion
      cases operation <;> decide
    · have hnone : named.lookup text = none := by
        simp [named, List.lookup_cons, beq_eq_false_iff_ne.mpr hls,
          beq_eq_false_iff_ne.mpr hversion]
      rw [hnone]
      cases operation <;> simp [name, hls, hversion]

theorem name_ne_empty (operation : Operation) : operation.name ≠ "" := by
  cases operation <;> decide

/-- What the parameters come to, by the kind of the value that they give. -/
theorem ofParams_of_string {params : Json.Members} {text : String}
    (h : params.get? "operation" = some (.string text)) :
    ofParams params =
      if text = "" then .ok (.error .noOperation)
      else .ok ((named.lookup text).elim (.error (.unknownOperation text)) .ok) := by
  simp only [ofParams, h, Option.getD_some, isAbsent, decide_eq_true_eq]
  split
  · rfl
  · cases named.lookup text <;> rfl

theorem ofParams_eq_ok_ok {params : Json.Members} {operation : Operation} :
    ofParams params = .ok (.ok operation) ↔
      params.get? "operation" = some (.string operation.name) := by
  cases hvalue : params.get? "operation" with
  | none => simp [ofParams, hvalue, isAbsent]
  | some value =>
    cases value with
    | string text =>
      rw [ofParams_of_string hvalue, Option.some.injEq, Json.string.injEq]
      split
      · next hempty =>
        subst hempty
        simpa using (name_ne_empty operation).symm
      · rw [← lookup_named_eq_some]
        cases named.lookup text <;> simp
    | null | bool | int | float | array | object =>
      simp only [ofParams, hvalue, Option.getD_some]
      grind

theorem unfit_of_ofParams {params : Json.Members} {failure : Failure}
    (h : ofParams params = .error failure) : Unfit params failure := by
  cases hvalue : params.get? "operation" with
  | none => simp [ofParams, hvalue, isAbsent] at h
  | some value =>
    cases value with
    | string text =>
      rw [ofParams_of_string hvalue] at h
      split at h
      · cases h
      · cases hnamed : named.lookup text <;> simp [hnamed] at h
    | array items =>
      cases items with
      | nil => simp [ofParams, hvalue, isAbsent] at h
      | cons item items =>
        simp only [ofParams, hvalue, Option.getD_some, isAbsent] at h
        cases h
        exact .array hvalue
    | object members =>
      cases members with
      | nil => simp [ofParams, hvalue, isAbsent] at h
      | cons member members =>
        simp only [ofParams, hvalue, Option.getD_some, isAbsent] at h
        cases h
        exact .object hvalue
    | int n =>
      simp only [ofParams, hvalue, Option.getD_some] at h
      split at h
      · cases h
      · split at h
        · next hlong =>
          cases h
          exact .integer hvalue hlong
        · cases h
    | null | bool | float =>
      simp only [ofParams, hvalue, Option.getD_some] at h
      split at h <;> cases h

theorem ofParams_eq_error {params : Json.Members} {failure : Failure} :
    ofParams params = .error failure ↔ Unfit params failure := by
  refine ⟨unfit_of_ofParams, ?_⟩
  intro h
  cases h with
  | array h | object h => simp [ofParams, h, isAbsent, Json.kindName]
  -- zero would count as no operation at all
  | integer h hlong => simp [ofParams, h, isAbsent, hlong, ne_zero_of_isTooLong hlong]

/-! ### The operation that is carried out -/

theorem ofContext_eq_ok_ok {files : FileSystem} {context : ActionContext}
    {operation : Operation} :
    ofContext files context = .ok (.ok operation) ↔ context.Asks files operation := by
  constructor
  · intro h
    obtain ⟨read, hread, h⟩ := Outcome.bind_eq_ok.mp h
    cases read with
    | error refusal => cases h
    | ok found =>
      simp only at h
      split at h
      · next hfolder =>
        cases h
        exact ⟨ofParams_eq_ok_ok.mp hread, hfolder⟩
      · cases h
  · rintro ⟨hnamed, hfolder⟩
    refine Outcome.bind_eq_ok.mpr ⟨_, ofParams_eq_ok_ok.mpr hnamed, ?_⟩
    simp only [hfolder, if_true]
    rfl

theorem ofContext_eq_error {files : FileSystem} {context : ActionContext} {failure : Failure} :
    ofContext files context = .error failure ↔ Unfit context.action.params failure := by
  rw [← ofParams_eq_error]
  constructor
  · intro h
    rcases Outcome.bind_eq_error.mp h with hparams | ⟨read, -, h⟩
    · exact hparams
    · cases read with
      | error refusal => cases h
      | ok found =>
        simp only at h
        split at h <;> cases h
  · intro h
    exact Outcome.bind_eq_error.mpr (Or.inl h)

end Operation

/-- An action asks for one operation. -/
theorem ActionContext.Asks.unique {files : FileSystem} {context : ActionContext}
    {operation other : Operation} (h : context.Asks files operation)
    (hother : context.Asks files other) : operation = other := by
  have hname : operation.name = other.name := by
    simpa [h.named] using hother.named
  cases operation <;> cases other <;> simp [Operation.name] at hname <;> rfl

end ProductionClosure

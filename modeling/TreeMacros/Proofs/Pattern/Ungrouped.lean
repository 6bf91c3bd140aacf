import TreeMacros.Proofs.Operator.Forest
import TreeMacros.Proofs.Pattern.Regular

/-! # Regular patterns with loose operators

The parts of a regular pattern are taken as they stand: they are not grouped first. A loose operator
is a part that no element suits, so a pattern that has one ahead of any `$rest` matches nothing,
whatever its grouped form matches. What stands behind `$rest` is not looked at, so operators there
do no harm.
-/

namespace TreeMacros

/-! ## Grouping behind a row of operands -/

namespace Grouping

variable {operands operands' results rest : List Node} {waiting waiting' : List PendingOperator}

/-- What lies below the operands that are taken stays. -/
theorem applyAll_below (applied : applyAll operands waiting = .ok results) (below : List Node) :
    applyAll (operands ++ below) waiting = .ok (results ++ below) := by
  induction waiting generalizing operands with
  | nil =>
      rw [applyAll_nil] at applied ⊢
      rw [Except.ok.inj applied]
  | cons pending waiting ih =>
      obtain _ | ⟨right, _ | ⟨left, operands⟩⟩ := operands
      · cases applied
      · cases applied
      · exact ih applied

theorem applyPreceding_below {next : OperatorInfo}
    (applied : applyPreceding next operands waiting = .ok (operands', waiting'))
    (below : List Node) :
    applyPreceding next (operands ++ below) waiting = .ok (operands' ++ below, waiting') := by
  induction waiting generalizing operands with
  | nil =>
      rw [applyPreceding] at applied ⊢
      cases applied
      rfl
  | cons pending waiting ih =>
      rw [applyPreceding.eq_def] at applied ⊢
      dsimp only at applied ⊢
      split at applied
      · next precedes =>
          rw [if_pos precedes]
          obtain _ | ⟨right, _ | ⟨left, operands⟩⟩ := operands
          · cases applied
          · cases applied
          · exact ih applied
      · next waits =>
          rw [if_neg waits]
          cases applied
          rfl

/-- Grouping that succeeds does so above other operands, and leaves them. -/
theorem groupFrom_below {after : Bool}
    (grouped : groupFrom operands waiting after rest = .ok results) (below : List Node) :
    groupFrom (operands ++ below) waiting after rest = .ok (below.reverse ++ results) := by
  induction rest generalizing operands waiting after with
  | nil =>
      rw [groupFrom] at grouped ⊢
      obtain ⟨settled, applied, same⟩ := exists_of_bind_eq_ok grouped
      rw [applyAll_below applied below]
      cases same
      exact congrArg Except.ok List.reverse_append
  | cons node rest ih =>
      cases kind : node.isOperator with
      | true =>
          obtain ⟨operator, rfl⟩ := isOperator_iff.mp kind
          rw [groupFrom_operator] at grouped ⊢
          obtain ⟨⟨operands', waiting'⟩, applied, later⟩ := exists_of_bind_eq_ok grouped
          rw [applyPreceding_below applied below]
          exact ih later
      | false =>
          have goesOn : ∀ {operands waiting},
              groupFrom operands waiting false (node :: rest) = .ok results →
              groupFrom (operands ++ below) waiting false (node :: rest) =
                .ok (below.reverse ++ results) := by
            intro operands waiting grouped
            rw [groupFrom_operand _ _ kind] at grouped ⊢
            obtain ⟨node', inner, later⟩ := exists_of_bind_eq_ok grouped
            rw [inner]
            exact ih later
          cases after with
          | false => exact goesOn grouped
          | true =>
              have ends : ∀ next ∈ (node :: rest).head?, next.isOperator = false := by
                rintro _ ⟨⟩
                exact kind
              rw [groupFrom_settle _ _ ends] at grouped ⊢
              obtain ⟨settled, applied, later⟩ := exists_of_bind_eq_ok grouped
              rw [applyAll_below applied below]
              exact goesOn later

/-- A row of operands is grouped one by one, before what stands behind it. -/
theorem exists_row {row earlier : List Node} (operand : ∀ node ∈ row, node.isOperator = false)
    (grouped : groupFrom earlier [] true (row ++ rest) = .ok results) :
    ∃ row', List.Forall₂ (fun node node' => node.grouped = .ok node') row row' ∧
      groupFrom (row'.reverse ++ earlier) [] true rest = .ok results := by
  induction row generalizing earlier with
  | nil => exact ⟨[], .nil, grouped⟩
  | cons node row ih =>
      obtain ⟨here, others⟩ := List.forall_mem_cons.mp operand
      have ends : ∀ next ∈ (node :: (row ++ rest)).head?, next.isOperator = false := by
        rintro _ ⟨⟩
        exact here
      rw [List.cons_append, groupFrom_settle _ _ ends, applyAll_nil] at grouped
      have grouped : groupFrom earlier [] false (node :: (row ++ rest)) = .ok results := grouped
      rw [groupFrom_operand _ _ here] at grouped
      obtain ⟨node', inner, later⟩ := exists_of_bind_eq_ok grouped
      obtain ⟨row', each, behind⟩ := ih others later
      exact ⟨node' :: row', .cons inner each, by simpa using behind⟩

/-- What is grouped on its own is grouped in the same way behind a row of operands. -/
theorem exists_row_of_grouped {row behind : List Node}
    (operand : ∀ node ∈ row, node.isOperator = false)
    (grouped : groupOperators (row ++ rest) = .ok results)
    (alone : groupOperators rest = .ok behind) :
    ∃ row', List.Forall₂ (fun node node' => node.grouped = .ok node') row row' ∧
      results = row' ++ behind := by
  obtain ⟨row', each, later⟩ := exists_row operand grouped
  refine ⟨row', each, ?_⟩
  have same := groupFrom_below alone row'.reverse
  rw [List.nil_append, List.reverse_reverse] at same
  rw [List.append_nil, same] at later
  exact (Except.ok.inj later).symm

theorem row_eq {row row' : List Node}
    (each : List.Forall₂ (fun node node' => node.grouped = .ok node') row row')
    (stay : ∀ node ∈ row, node.grouped = .ok node) : row' = row := by
  induction each with
  | nil => rfl
  | cons inner _ ih =>
      obtain ⟨here, others⟩ := List.forall_mem_cons.mp stay
      rw [ih others, Except.ok.inj (inner.symm.trans here)]

theorem stays_of_isIdent {node : Node} {name : String} (isIdent : node.isIdent name) :
    node.isOperator = false ∧ node.grouped = .ok node := by
  cases node with
  | leaf kind text loc =>
      cases kind with
      | identifier =>
          refine ⟨rfl, ?_⟩
          rw [Node.grouped]
          intro kind children loc same
          cases same
      | string | number | operator => cases isIdent
  | binop | bracket => cases isIdent

/-- So it is behind a single operand that stays as it is. -/
theorem groupOperators_cons {node : Node} {behind : List Node} (operand : node.isOperator = false)
    (stays : node.grouped = .ok node) (alone : groupOperators rest = .ok behind) :
    groupOperators (node :: rest) = .ok (node :: behind) := by
  rw [groupOperators_eq, groupFrom_operand _ _ operand, stays]
  exact groupFrom_below alone [node]

end Grouping

/-! ## Loose operators and the rest -/

namespace Describes

variable {suits : Node → Datum → Prop} {items : List Datum}

/-- A part that nothing suits is passed only by a `$rest` ahead of it. -/
theorem not_of_unsuited {before after : List Node} {part : Node} (notRest : ¬part.isIdent "$rest")
    (notRun : ∀ quantifier repeated loc, part ≠ .binop quantifier "*" repeated loc)
    (unsuited : ∀ datum, ¬suits part datum) (noRest : ∀ part ∈ before, ¬part.isIdent "$rest") :
    ¬Describes suits (before ++ part :: after) items := by
  induction before generalizing items with
  | nil =>
      rw [List.nil_append, one_iff notRest notRun]
      rintro ⟨element, others, -, suit, -⟩
      exact unsuited element suit
  | cons first before ih =>
      obtain ⟨here, others⟩ := List.forall_mem_cons.mp noRest
      intro described
      cases described with
      | rest isRest => exact here isRest
      | run _ _ _ _ later => exact ih others later
      | one _ _ _ later => exact ih others later

/-- What stands behind a `$rest` is not looked at. -/
theorem of_append_rest {ahead after after' : List Node} {last : Node}
    (isRest : last.isIdent "$rest") (described : Describes suits (ahead ++ last :: after) items) :
    Describes suits (ahead ++ last :: after') items := by
  induction ahead generalizing items with
  | nil => exact rest isRest
  | cons first ahead ih =>
      cases described with
      | rest isRest => exact rest isRest
      | run quantifies enough fewEnough suit later =>
          exact run quantifies enough fewEnough suit (ih later)
      | one notRest notRun suit later => exact one notRest notRun suit (ih later)

end Describes

/-! ## Matching -/

namespace PatternMatcher

section

variable {head : Node} (isRegular : head.isIdent "$r") (loc : Option Span)

include isRegular

/-- Without hooks, a regular pattern asks for a list that its parts describe. -/
theorem plain_regular_eq_some_iff (parts : List Node) (datum : Datum) (env result : Bindings) :
    bindings? {} datum (.bracket .curly (head :: parts) loc) env = some result ↔
      result = env ∧ ∃ items, datum = .list items ∧
        Describes (fun node element => accepts {} element node) parts items :=
  regular_eq_some_iff {} parts loc isRegular nofun datum env result

theorem plain_regular_append_rest {last : Node} (isRest : last.isIdent "$rest")
    (ahead after after' : List Node) (datum : Datum) (env : Bindings) :
    bindings? {} datum (.bracket .curly (head :: (ahead ++ last :: after)) loc) env =
      bindings? {} datum (.bracket .curly (head :: (ahead ++ last :: after')) loc) env := by
  refine Option.ext fun result => ?_
  rw [plain_regular_eq_some_iff isRegular, plain_regular_eq_some_iff isRegular]
  have same : ∀ items,
      Describes (fun node element => accepts {} element node) (ahead ++ last :: after) items ↔
        Describes (fun node element => accepts {} element node) (ahead ++ last :: after') items :=
    fun items => ⟨.of_append_rest isRest, .of_append_rest isRest⟩
  simp only [same]

theorem plain_regular_eq_none {before after : List Node} {operator : PendingOperator}
    (noRest : ∀ part ∈ before, ¬part.isIdent "$rest") (datum : Datum) (env : Bindings) :
    bindings? {} datum
      (.bracket .curly (head :: (before ++ operator.node :: after)) loc) env = none := by
  refine Option.eq_none_iff_forall_ne_some.mpr fun result matched => ?_
  obtain ⟨-, items, -, described⟩ := (plain_regular_eq_some_iff isRegular _ _ _ _ _).mp matched
  refine Describes.not_of_unsuited ?_ ?_ ?_ noRest described
  · simp [PendingOperator.node, Node.isIdent, Node.ident?]
  · rintro quantifier repeated loc ⟨⟩
  · rintro datum ⟨⟩

/-- A regular pattern is matched as it stands, whatever its parts would be grouped to. With a loose
    operator ahead of any `$rest` it matches nothing, so it agrees with the grouped pattern on the
    values that this one does not match. With a `$rest` ahead of the operators it agrees with the
    pattern that ends there. If what stands behind groups on its own, then so does the grouped
    pattern, and the two agree where the parts ahead agree; so they do if those are grouped. -/
theorem regular_ungrouped {parts grouped : List Node}
    (groups : groupOperators parts = .ok grouped) :
    let outcome := fun (parts : List Node) (datum : Datum) (env : Bindings) =>
      bindings? {} datum (.bracket .curly (head :: parts) loc) env
    (∀ before operator after, parts = before ++ PendingOperator.node operator :: after →
      (∀ part ∈ before, ¬part.isIdent "$rest") → ∀ datum env,
        outcome parts datum env = none ∧
        (outcome parts datum env = outcome grouped datum env ↔
          outcome grouped datum env = none)) ∧
    ∀ ahead last after, parts = ahead ++ last :: after → last.isIdent "$rest" →
      (∀ part ∈ ahead, part.isOperator = false) →
      (∀ datum env, outcome parts datum env = outcome (ahead ++ [last]) datum env) ∧
      ∀ behind, groupOperators after = .ok behind →
        ∃ ahead', List.Forall₂ (fun part part' => part.grouped = .ok part') ahead ahead' ∧
          (∀ datum env, outcome grouped datum env = outcome (ahead' ++ [last]) datum env) ∧
          ((∀ part ∈ ahead, part.grouped = .ok part) → ∀ datum env,
            outcome parts datum env = outcome grouped datum env) := by
  intro outcome
  constructor
  · rintro before operator after rfl noRest datum env
    have unmatched : outcome (before ++ operator.node :: after) datum env = none :=
      plain_regular_eq_none isRegular loc noRest datum env
    rw [unmatched]
    exact ⟨rfl, eq_comm⟩
  · rintro ahead last after rfl isRest operands
    have ends := fun ahead after => plain_regular_append_rest isRegular loc isRest ahead after []
    refine ⟨ends ahead after, fun behind alone => ?_⟩
    obtain ⟨lastOperand, lastStays⟩ := Grouping.stays_of_isIdent isRest
    have aloneBehind := Grouping.groupOperators_cons lastOperand lastStays alone
    obtain ⟨ahead', each, rfl⟩ := Grouping.exists_row_of_grouped operands groups aloneBehind
    refine ⟨ahead', each, ends ahead' behind, fun stay datum env => ?_⟩
    rw [Grouping.row_eq each stay]
    exact (ends ahead after datum env).trans (ends ahead behind datum env).symm

end

/-- An operator behind `$rest` is grouped with the parts around it, none of which is looked at. -/
theorem regular_ungrouped_behind :
    let parts : List Node := [.ident "a", .ident "$rest", .ident "b",
      PendingOperator.node ⟨"|", none⟩, .ident "c"]
    let grouped : List Node :=
      [.ident "a", .ident "$rest", .binary (.ident "b") "|" (.ident "c")]
    let outcome := fun parts =>
      bindings? {} (.list [.string "a", .null]) (.curly (.ident "$r" :: parts)) []
    (Node.ident "$r").isIdent "$r" ∧ groupOperators parts = .ok grouped ∧
      outcome parts = some [] ∧ outcome grouped = some [] := by
  intro parts grouped outcome
  have isRegular : (Node.ident "$r").isIdent "$r" := rfl
  have groups : groupOperators parts = .ok grouped := rfl
  have alone : groupOperators [.ident "b", PendingOperator.node ⟨"|", none⟩, .ident "c"] =
      .ok [.binary (.ident "b") "|" (.ident "c")] := rfl
  have isName : (Node.ident "a").isIdent "a" := rfl
  have ahead := Grouping.stays_of_isIdent isName
  obtain ⟨ends, behind⟩ := (regular_ungrouped isRegular none groups).2 [.ident "a"]
    (.ident "$rest") _ rfl rfl (List.forall_mem_singleton.mpr ahead.1)
  obtain ⟨-, -, -, agree⟩ := behind _ alone
  have described : Describes (fun node element => accepts {} element node)
      [.ident "a", .ident "$rest"] [.string "a", .null] :=
    .one (by decide) nofun (by decide +kernel) (.rest rfl)
  have matched : outcome [.ident "a", .ident "$rest"] = some [] :=
    (plain_regular_eq_some_iff isRegular none _ _ _ _).mpr ⟨rfl, _, rfl, described⟩
  have first : outcome parts = some [] := (ends _ []).trans matched
  have same : outcome parts = outcome grouped := agree (List.forall_mem_singleton.mpr ahead.2) _ []
  exact ⟨isRegular, groups, first, same ▸ first⟩

/-- At least one element of any kind: there is one, but the parts are a name, an operator and
    another name as long as nobody groups them. -/
theorem regular_ungrouped_differs :
    let parts : List Node := [.ident "$some", PendingOperator.node ⟨"*", none⟩, .ident "_"]
    let grouped : List Node := [.binary (.ident "$some") "*" (.ident "_")]
    let outcome := fun parts =>
      bindings? {} (.list [.number 1]) (.curly (.ident "$r" :: parts)) []
    groupOperators parts = .ok grouped ∧ outcome parts = none ∧ outcome grouped = some [] := by
  intro parts grouped outcome
  have isRegular : (Node.ident "$r").isIdent "$r" := rfl
  have noRest : ∀ part ∈ [Node.ident "$some"], ¬part.isIdent "$rest" := by decide
  have unmatched : outcome parts = none := plain_regular_eq_none isRegular none noRest _ []
  have described : Describes (fun node element => accepts {} element node) grouped
      ([.number 1] ++ []) :=
    .run rfl (by decide) nofun (by decide +kernel) .nothing
  have matched : outcome grouped = some [] :=
    (plain_regular_eq_some_iff isRegular none _ _ _ _).mpr ⟨rfl, _, rfl, described⟩
  exact ⟨rfl, unmatched, matched⟩

end PatternMatcher

end TreeMacros

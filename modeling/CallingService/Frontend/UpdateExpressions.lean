import CallingService.Foundation.TableWrites
import CallingService.Frontend.Storage

/-!
# Update expressions

The `SET` expressions of the service.  An expression names its attributes and
values by placeholders, which the request supplies beside it; the operands are
read from the item before the update.
-/

namespace CallingService.Frontend

open Foundation

/-- A value, or the value of an attribute that takes its place if it exists. -/
inductive SetOperand where
  | value (placeholder : String)
  | ifNotExists (path placeholder : String)
deriving DecidableEq, Repr

structure SetClause where
  path : String
  operand : SetOperand
deriving DecidableEq, Repr

def SetOperand.text : SetOperand → String
  | value placeholder => placeholder
  | ifNotExists path placeholder =>
      "if_not_exists(" ++ path ++ ", " ++ placeholder ++ ")"

theorem SetOperand.text_value (placeholder : String) :
    (value placeholder).text = placeholder := rfl

theorem SetOperand.text_ifNotExists (path placeholder : String) :
    (ifNotExists path placeholder).text =
      "if_not_exists(" ++ path ++ ", " ++ placeholder ++ ")" := rfl

def SetClause.text (clause : SetClause) : String :=
  clause.path ++ " = " ++ clause.operand.text

def SetOperand.paths : SetOperand → List String
  | value _ => []
  | ifNotExists path _ => [path]

def SetOperand.placeholder : SetOperand → String
  | value placeholder => placeholder
  | ifNotExists _ placeholder => placeholder

def SetClause.paths (clause : SetClause) : List String :=
  clause.path :: clause.operand.paths

/-! ## Reading -/

def isWordChar (char : Char) : Bool :=
  char.isAlphanum || char == '_'

def IsWord (name : String) : Prop :=
  name.toList ≠ [] ∧ ∀ char ∈ name.toList, isWordChar char

/-- A placeholder is its mark and a word. -/
def readPlaceholder (mark : Char) : List Char → Option (String × List Char)
  | [] => none
  | first :: rest =>
      if first = mark ∧ rest.takeWhile isWordChar ≠ [] then
        some (String.ofList (first :: rest.takeWhile isWordChar),
          rest.dropWhile isWordChar)
      else none

def readToken (token : String) (text : List Char) : Option (List Char) :=
  if token.toList.isPrefixOf text then some (text.drop token.toList.length)
  else none

def readOperand (text : List Char) : Option (SetOperand × List Char) :=
  match readPlaceholder ':' text with
  | some (placeholder, rest) => some (.value placeholder, rest)
  | none => do
      let text ← readToken "if_not_exists(" text
      let (path, text) ← readPlaceholder '#' text
      let text ← readToken ", " text
      let (placeholder, text) ← readPlaceholder ':' text
      let rest ← readToken ")" text
      return (.ifNotExists path placeholder, rest)

def readClause (text : List Char) : Option (SetClause × List Char) := do
  let (path, text) ← readPlaceholder '#' text
  let text ← readToken " = " text
  let (operand, rest) ← readOperand text
  return ({ path, operand }, rest)

def readClauses : Nat → List Char → Option (List SetClause)
  | 0, _ => none
  | fuel + 1, text => do
      let (clause, rest) ← readClause text
      if rest = [] then return [clause]
      else
        let text ← readToken "," rest
        let clauses ← readClauses fuel text
        return clause :: clauses

/-- No expression has more clauses than characters. -/
def readSetExpression (expression : String) : Option (List SetClause) := do
  let clauses ← readToken "SET " expression.toList
  readClauses expression.length clauses

/-! ### Reading what was written -/

def IsPlaceholder (mark : Char) (placeholder : String) : Prop :=
  ∃ name, IsWord name ∧ placeholder.toList = mark :: name.toList

def SetOperand.WellFormed : SetOperand → Prop
  | value placeholder => IsPlaceholder ':' placeholder
  | ifNotExists path placeholder =>
      IsPlaceholder '#' path ∧ IsPlaceholder ':' placeholder

def SetClause.WellFormed (clause : SetClause) : Prop :=
  IsPlaceholder '#' clause.path ∧ clause.operand.WellFormed

/-- A word does not go on into what follows. -/
def EndsWord (rest : List Char) : Prop :=
  ∀ char ∈ rest.head?, isWordChar char = false

theorem endsWord_append {token : String} {char : Char} {rest : List Char}
    (starts : token.toList.head? = some char)
    (noWord : isWordChar char = false) : EndsWord (token.toList ++ rest) := by
  intro other isHead
  rw [List.head?_append, starts] at isHead
  cases isHead
  exact noWord

theorem readToken_append {token : String} {rest : List Char} :
    readToken token (token.toList ++ rest) = some rest := by
  unfold readToken
  rw [if_pos (by simp), List.drop_left]

theorem takeWhile_word {name : String} {rest : List Char}
    (isWord : IsWord name) (ends : EndsWord rest) :
    (name.toList ++ rest).takeWhile isWordChar = name.toList ∧
      (name.toList ++ rest).dropWhile isWordChar = rest := by
  rw [List.takeWhile_append_of_pos isWord.2,
    List.dropWhile_append_of_pos isWord.2]
  cases rest with
  | nil => simp
  | cons char rest =>
      have noWord := ends char rfl
      simp [noWord]

theorem readPlaceholder_append {mark : Char} {placeholder : String}
    {rest : List Char} (isPlaceholder : IsPlaceholder mark placeholder)
    (ends : EndsWord rest) :
    readPlaceholder mark (placeholder.toList ++ rest) =
      some (placeholder, rest) := by
  obtain ⟨name, isWord, spelled⟩ := isPlaceholder
  obtain ⟨taken, dropped⟩ := takeWhile_word isWord ends
  rw [spelled, List.cons_append]
  have isNext : mark = mark ∧
      (name.toList ++ rest).takeWhile isWordChar ≠ [] :=
    ⟨rfl, by rw [taken]; exact isWord.1⟩
  unfold readPlaceholder
  dsimp only
  rw [if_pos isNext, taken, dropped, ← spelled, String.ofList_toList]

theorem readOperand_text {operand : SetOperand} {rest : List Char}
    (wellFormed : operand.WellFormed) (ends : EndsWord rest) :
    readOperand (operand.text.toList ++ rest) = some (operand, rest) := by
  unfold readOperand
  cases operand with
  | value placeholder =>
      rw [SetOperand.text_value, readPlaceholder_append wellFormed ends]
  | ifNotExists path placeholder =>
      have noValue : readPlaceholder ':'
          ((SetOperand.ifNotExists path placeholder).text.toList ++ rest) =
            none := by
        simp [SetOperand.text_ifNotExists, readPlaceholder]
      rw [noValue, SetOperand.text_ifNotExists]
      simp only [String.toList_append, List.append_assoc, readToken_append,
        Option.bind_eq_bind, Option.bind_some]
      rw [readPlaceholder_append wellFormed.1
        (@endsWord_append ", " ',' _ (by decide) (by decide))]
      simp only [Option.bind_some, readToken_append]
      rw [readPlaceholder_append wellFormed.2
        (@endsWord_append ")" ')' _ (by decide) (by decide))]
      simp only [Option.bind_some, readToken_append, Option.pure_def]

theorem readClause_text {clause : SetClause} {rest : List Char}
    (wellFormed : clause.WellFormed) (ends : EndsWord rest) :
    readClause (clause.text.toList ++ rest) = some (clause, rest) := by
  unfold readClause SetClause.text
  simp only [String.toList_append, List.append_assoc]
  rw [readPlaceholder_append wellFormed.1
    (@endsWord_append " = " ' ' _ (by decide) (by decide))]
  simp only [Option.bind_eq_bind, Option.bind_some, readToken_append,
    readOperand_text wellFormed.2 ends, Option.pure_def]

theorem readClauses_text {clauses : List SetClause} {fuel : Nat}
    (present : clauses ≠ []) (enough : clauses.length ≤ fuel)
    (wellFormed : ∀ clause ∈ clauses, clause.WellFormed) :
    readClauses fuel (",".intercalate (clauses.map SetClause.text)).toList =
      some clauses := by
  induction clauses generalizing fuel with
  | nil => contradiction
  | cons clause others ih =>
      cases fuel with
      | zero => cases enough
      | succ fuel =>
          have clauseFormed := wellFormed clause List.mem_cons_self
          unfold readClauses
          cases others with
          | nil =>
              have alone : readClause clause.text.toList =
                  some (clause, []) := by
                have read := @readClause_text clause [] clauseFormed
                  (by intro char isHead; cases isHead)
                rwa [List.append_nil] at read
              simp [alone]
          | cons next others =>
              have rest := @ih fuel (List.cons_ne_nil _ _)
                (Nat.le_of_succ_le_succ enough)
                fun other member => wellFormed other (.tail _ member)
              rw [List.map_cons, List.map_cons,
                String.intercalate_cons_cons, String.toList_append,
                String.toList_append, List.append_assoc,
                readClause_text clauseFormed
                  (@endsWord_append "," ',' _ (by decide) (by decide))]
              rw [List.map_cons] at rest
              simp only [Option.bind_eq_bind, Option.bind_some]
              rw [if_neg (by simp), readToken_append, Option.bind_some, rest,
                Option.bind_some, Option.pure_def]

theorem length_le_length_intercalate {clauses : List SetClause} :
    clauses.length ≤
      (",".intercalate (clauses.map SetClause.text)).toList.length + 1 := by
  induction clauses with
  | nil => exact Nat.zero_le _
  | cons clause others ih =>
      cases others with
      | nil => exact Nat.le_add_left _ _
      | cons next others =>
          rw [List.map_cons, List.map_cons, String.intercalate_cons_cons,
            String.toList_append, String.toList_append, List.length_append,
            List.length_append]
          rw [List.map_cons] at ih
          have comma : ",".toList.length = 1 := by decide
          rw [List.length_cons]
          omega

theorem readSetExpression_text {clauses : List SetClause}
    (present : clauses ≠ [])
    (wellFormed : ∀ clause ∈ clauses, clause.WellFormed) :
    readSetExpression
        ("SET " ++ ",".intercalate (clauses.map SetClause.text)) =
      some clauses := by
  unfold readSetExpression
  rw [String.toList_append, readToken_append]
  have enough := @length_le_length_intercalate clauses
  refine readClauses_text present ?_ wellFormed
  rw [← String.length_toList, String.toList_append, List.length_append]
  have opening : "SET ".toList.length = 4 := by decide
  omega

/-! ## Evaluation -/

/-- The attribute and the value it receives. -/
def SetClause.evaluate (names : Table String String) (values record : Item)
    (clause : SetClause) : Option (String × AttributeValue) := do
  let name ← names.lookup clause.path
  match clause.operand with
  | .value placeholder =>
      let value ← values.lookup placeholder
      return (name, value)
  | .ifNotExists path placeholder =>
      let other ← names.lookup path
      let value ← values.lookup placeholder
      return (name, (record.lookup other).getD value)

/-- The request is refused if a placeholder is missing or unused, or if two
clauses assign the same attribute. -/
def evaluateSet (names : Table String String) (values : Item)
    (clauses : List SetClause) (record : Item) : Option Item := do
  let assignments ← clauses.mapM (SetClause.evaluate names values record)
  if (∀ path ∈ names.keys, path ∈ clauses.flatMap SetClause.paths) ∧
      (∀ placeholder ∈ values.keys,
        placeholder ∈ clauses.map (·.operand.placeholder)) ∧
      (assignments.map Prod.fst).Nodup then
    return record.writeAll assignments
  else none

end CallingService.Frontend

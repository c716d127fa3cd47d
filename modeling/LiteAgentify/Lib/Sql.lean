import Mathlib.Order.Lattice

/-!
# Conditions of SQL statements

A text is split into words and those into tokens (`tokens`), conditions are parsed with `AND`
binding tighter than `OR` (`parse`), and evaluated in the logic with the third value unknown
(`Expr.eval`). Conditions that are joined by `AND` after a `WHERE` parse back
(`whereClause_renderWhere`) and select the rows that meet each of them (`evalWhere_conjunction`).
-/

set_option autoImplicit false

namespace Sql

/-! ## Words and tokens -/

def flush : List Char → List (List Char)
  | [] => []
  | word => [word]

/-- The words of a text after the beginning `word` of one; a parenthesis is a word. -/
def wordsFrom (word : List Char) : List Char → List (List Char)
  | [] => flush word
  | c :: text =>
    if c = ' ' then flush word ++ wordsFrom [] text
    else if c = '(' ∨ c = ')' then flush word ++ [c] :: wordsFrom [] text
    else wordsFrom (word ++ [c]) text

def words (text : List Char) : List (List Char) := wordsFrom [] text

inductive Keyword
  | selectKw
  | fromKw
  | whereKw
  | andKw
  | orKw
  | orderKw
  | byKw
  | descKw
  | limitKw
  | offsetKw
  deriving DecidableEq

inductive Op
  | eq
  | lt
  | le
  | ge
  deriving DecidableEq

def Op.holds {α : Type*} [LinearOrder α] (left right : α) : Op → Bool
  | eq => left = right
  | lt => left < right
  | le => left ≤ right
  | ge => right ≤ left

inductive Token
  | lparen
  | rparen
  | keyword (k : Keyword)
  | op (o : Op)
  | placeholder (n : Nat)
  | literal (n : Nat)
  | name (text : String)
  deriving DecidableEq

def keywords : List (String × Token) :=
  [("(", .lparen), (")", .rparen), ("SELECT", .keyword .selectKw), ("FROM", .keyword .fromKw),
    ("WHERE", .keyword .whereKw), ("AND", .keyword .andKw), ("OR", .keyword .orKw),
    ("ORDER", .keyword .orderKw), ("BY", .keyword .byKw), ("DESC", .keyword .descKw),
    ("LIMIT", .keyword .limitKw), ("OFFSET", .keyword .offsetKw), ("=", .op .eq), ("<", .op .lt),
    ("<=", .op .le), (">=", .op .ge)]

/-- A word that is no keyword: a placeholder, a number or a name. -/
def plainToken (word : List Char) : Token :=
  if word.head? = some '$' then .placeholder (Nat.ofDigitChars 10 word.tail 0)
  else if word.all Char.isDigit then .literal (Nat.ofDigitChars 10 word 0)
  else .name (String.ofList word)

def token (word : List Char) : Token :=
  (keywords.lookup (String.ofList word)).getD (plainToken word)

def tokens (text : String) : List Token := (words text.toList).map token

/-- The numbers of the placeholders, in the order of the text. -/
def numbers : List Token → List Nat :=
  List.filterMap fun
    | .placeholder n => some n
    | _ => none

def placeholders (text : String) : List Nat := numbers (tokens text)

/-! ## Conditions -/

inductive Operand
  | placeholder (n : Nat)
  | literal (n : Nat)
  deriving DecidableEq

inductive Expr
  | compare (column : String) (op : Op) (operand : Operand)
  | and (left right : Expr)
  | or (left right : Expr)
  deriving DecidableEq

/-- What is parsed: a comparison or a condition in parentheses, these with `AND` between them, those
with `OR` between them. -/
inductive Level
  | atom
  | conj
  | disj
  deriving DecidableEq

def parse : Nat → Level → List Token → Option (Expr × List Token)
  | 0, _, _ => none
  | fuel + 1, .atom, .lparen :: rest =>
    match parse fuel .disj rest with
    | some (e, .rparen :: rest) => some (e, rest)
    | _ => none
  | _ + 1, .atom, .name column :: .op o :: .placeholder n :: rest =>
    some (.compare column o (.placeholder n), rest)
  | _ + 1, .atom, .name column :: .op o :: .literal n :: rest =>
    some (.compare column o (.literal n), rest)
  | _ + 1, .atom, _ => none
  | fuel + 1, .conj, text =>
    match parse fuel .atom text with
    | some (e, .keyword .andKw :: rest) =>
      (parse fuel .conj rest).map fun (e', rest) => (.and e e', rest)
    | result => result
  | fuel + 1, .disj, text =>
    match parse fuel .conj text with
    | some (e, .keyword .orKw :: rest) =>
      (parse fuel .disj rest).map fun (e', rest) => (.or e e', rest)
    | result => result

/-- An optional `WHERE`, and what follows it. -/
def whereClause : List Token → Option (Option Expr × List Token)
  | .keyword .whereKw :: text =>
    (parse (4 * text.length) .disj text).map fun (e, rest) => (some e, rest)
  | text => some (none, text)

example : whereClause (tokens " WHERE a = $1 AND (b = $2 OR c < 5) AND d >= 3 OR e <= $4") =
    some (some (.or
      (.and (.compare "a" .eq (.placeholder 1))
        (.and (.or (.compare "b" .eq (.placeholder 2)) (.compare "c" .lt (.literal 5)))
          (.compare "d" .ge (.literal 3))))
      (.compare "e" .le (.placeholder 4))), []) := by decide

/-! ## Truth -/

/-- A truth value; `none` is unknown. -/
abbrev Truth := Option Bool

def Truth.and : Truth → Truth → Truth
  | some false, _ => some false
  | _, some false => some false
  | some true, some true => some true
  | _, _ => none

def Truth.or : Truth → Truth → Truth
  | some true, _ => some true
  | _, some true => some true
  | some false, some false => some false
  | _, _ => none

/-- What a condition is evaluated in: the columns of a row, of which one may be null, the bound
values, the numbers of the text and the comparisons that the types allow. -/
structure Env (V : Type*) where
  column : String → Option (Option V)
  parameter : Nat → Option V
  literal : Nat → V
  compare : Op → V → V → Option Bool

variable {V : Type*}

def Env.operand (env : Env V) : Operand → Option V
  | .placeholder n => env.parameter n
  | .literal n => some (env.literal n)

/-- The truth of a condition on a row, or nothing when the statement is not valid. A comparison with
null is unknown. -/
def Expr.eval (env : Env V) : Expr → Option Truth
  | .compare column o operand =>
    match env.column column, env.operand operand with
    | some (some left), some right => (env.compare o left right).map some
    | some none, some _ => some none
    | _, _ => none
  | .and left right =>
    match left.eval env, right.eval env with
    | some a, some b => some (a.and b)
    | _, _ => none
  | .or left right =>
    match left.eval env, right.eval env with
    | some a, some b => some (a.or b)
    | _, _ => none

theorem Truth.and_eq_true {a b : Truth} : a.and b = some true ↔ a = some true ∧ b = some true := by
  rcases a with _ | _ | _ <;> rcases b with _ | _ | _ <;> decide

theorem Truth.or_eq_true {a b : Truth} : a.or b = some true ↔ a = some true ∨ b = some true := by
  rcases a with _ | _ | _ <;> rcases b with _ | _ | _ <;> decide

/-- Every column, value and comparison of the condition exists. -/
def Expr.Valid (env : Env V) (e : Expr) : Prop := ∃ truth, e.eval env = some truth

/-- True, and neither false nor unknown. -/
def Expr.isTrue (env : Env V) (e : Expr) : Bool := e.eval env = some (some true)

section
variable {env : Env V} {left right first : Expr} {rest : List Expr}

theorem Expr.Valid.and (hl : left.Valid env) (hr : right.Valid env) :
    (Expr.and left right).Valid env := by
  obtain ⟨a, ha⟩ := hl
  obtain ⟨b, hb⟩ := hr
  exact ⟨a.and b, by rw [Expr.eval, ha, hb]⟩

theorem Expr.Valid.or (hl : left.Valid env) (hr : right.Valid env) :
    (Expr.or left right).Valid env := by
  obtain ⟨a, ha⟩ := hl
  obtain ⟨b, hb⟩ := hr
  exact ⟨a.or b, by rw [Expr.eval, ha, hb]⟩

theorem Expr.isTrue_and (hl : left.Valid env) (hr : right.Valid env) :
    (Expr.and left right).isTrue env = (left.isTrue env && right.isTrue env) := by
  obtain ⟨a, ha⟩ := hl
  obtain ⟨b, hb⟩ := hr
  rw [Bool.eq_iff_iff]
  simp [Expr.isTrue, Expr.eval, ha, hb, Truth.and_eq_true]

theorem Expr.isTrue_or (hl : left.Valid env) (hr : right.Valid env) :
    (Expr.or left right).isTrue env = (left.isTrue env || right.isTrue env) := by
  obtain ⟨a, ha⟩ := hl
  obtain ⟨b, hb⟩ := hr
  rw [Bool.eq_iff_iff]
  simp [Expr.isTrue, Expr.eval, ha, hb, Truth.or_eq_true]

/-- Conditions with `AND` between them. -/
def conjAll (first : Expr) : List Expr → Expr
  | [] => first
  | second :: rest => .and first (conjAll second rest)

theorem Expr.Valid.conjAll (h : ∀ e ∈ first :: rest, e.Valid env) :
    (Sql.conjAll first rest).Valid env := by
  induction rest generalizing first with
  | nil => exact h first (List.mem_cons_self ..)
  | cons second rest ih =>
    obtain ⟨hfirst, hrest⟩ := List.forall_mem_cons.1 h
    exact hfirst.and (ih hrest)

theorem isTrue_conjAll (h : ∀ e ∈ first :: rest, e.Valid env) :
    (conjAll first rest).isTrue env = (first :: rest).all (·.isTrue env) := by
  induction rest generalizing first with
  | nil => rw [List.all_cons, List.all_nil, Bool.and_true, conjAll]
  | cons second rest ih =>
    obtain ⟨hfirst, hrest⟩ := List.forall_mem_cons.1 h
    rw [conjAll, Expr.isTrue_and hfirst (.conjAll hrest), ih hrest]
    rfl

end

/-- The truth of a condition that may be absent. -/
def evalWhere (env : Env V) : Option Expr → Option Truth
  | none => some (some true)
  | some e => e.eval env

/-- The condition that is left of a list of them. -/
def conjunction : List Expr → Option Expr
  | [] => none
  | first :: rest => some (conjAll first rest)

/-- **A row is selected when it meets every condition.** -/
theorem evalWhere_conjunction {env : Env V} {conditions : List Expr}
    (h : ∀ e ∈ conditions, e.Valid env) :
    ∃ truth, evalWhere env (conjunction conditions) = some truth ∧
      (truth = some true ↔ conditions.all (·.isTrue env) = true) := by
  cases conditions with
  | nil => exact ⟨some true, rfl, by simp⟩
  | cons first rest =>
    obtain ⟨truth, htruth⟩ := Expr.Valid.conjAll h
    refine ⟨truth, htruth, ?_⟩
    rw [← isTrue_conjAll h, Expr.isTrue, htruth, decide_eq_true_eq, Option.some_inj]

/-! ## Statements -/

/-- `SELECT … FROM … [WHERE …] ORDER BY … DESC LIMIT … OFFSET …`. -/
structure Select where
  columns : List Token
  table : String
  condition : Option Expr
  orderBy : String
  limit : Nat
  offset : Nat
  deriving DecidableEq

/-- The clauses after the columns. -/
def selectFrom (columns : List Token) : List Token → Option Select
  | .keyword .fromKw :: .name table :: rest =>
    match whereClause rest with
    | some (condition, [.keyword .orderKw, .keyword .byKw, .name orderBy, .keyword .descKw,
        .keyword .limitKw, .placeholder limit, .keyword .offsetKw, .placeholder offset]) =>
      some { columns, table, condition, orderBy, limit, offset }
    | _ => none
  | _ => none

def select (text : String) : Option Select :=
  match tokens text with
  | .keyword .selectKw :: rest =>
    selectFrom (rest.takeWhile (· ≠ .keyword .fromKw)) (rest.dropWhile (· ≠ .keyword .fromKw))
  | _ => none

theorem select_eq {text table orderBy : String} {columns rest : List Token}
    {condition : Option Expr} {limit offset : Nat}
    (htext : tokens text =
      .keyword .selectKw :: (columns ++ .keyword .fromKw :: .name table :: rest))
    (hcolumns : ∀ token ∈ columns, token ≠ .keyword .fromKw)
    (hrest : whereClause rest = some (condition, [.keyword .orderKw, .keyword .byKw, .name orderBy,
      .keyword .descKw, .keyword .limitKw, .placeholder limit, .keyword .offsetKw,
      .placeholder offset])) :
    select text = some ⟨columns, table, condition, orderBy, limit, offset⟩ := by
  have hnames : ∀ token ∈ columns, decide (token ≠ Token.keyword .fromKw) = true :=
    fun token htoken => decide_eq_true (hcolumns token htoken)
  rw [select, htext]
  simp only [List.takeWhile_append_of_pos hnames, List.dropWhile_append_of_pos hnames]
  rw [List.takeWhile_cons_of_neg (by decide), List.dropWhile_cons_of_neg (by decide),
    List.append_nil, selectFrom, hrest]

/-! ## Writing a condition out -/

def Operand.token : Operand → Token
  | .placeholder n => .placeholder n
  | .literal n => .literal n

def Expr.render : Level → Expr → List Token
  | _, .compare column o operand => [.name column, .op o, operand.token]
  | .atom, .and left right =>
    .lparen :: (left.render .atom ++ .keyword .andKw :: right.render .conj) ++ [.rparen]
  | _, .and left right => left.render .atom ++ .keyword .andKw :: right.render .conj
  | .disj, .or left right => left.render .conj ++ .keyword .orKw :: right.render .disj
  | _, .or left right =>
    .lparen :: (left.render .conj ++ .keyword .orKw :: right.render .disj) ++ [.rparen]

def Expr.size : Expr → Nat
  | .compare .. => 1
  | .and left right => left.size + right.size + 1
  | .or left right => left.size + right.size + 1

/-- What may follow a condition of a level. -/
def Level.Ends : Level → List Token → Prop
  | .atom, _ => True
  | .conj, rest => rest.head? ≠ some (.keyword .andKw)
  | .disj, rest => rest.head? ≠ some (.keyword .andKw) ∧ rest.head? ≠ some (.keyword .orKw)

section
variable {fuel : Nat} {text rest rest' : List Token} {e left right : Expr}

theorem parse_conj_of_atom (h : parse fuel .atom text = some (e, rest))
    (hrest : Level.conj.Ends rest) : parse (fuel + 1) .conj text = some (e, rest) := by
  rw [parse, h]
  split
  · rename_i heq
    injection heq with heq
    injection heq with _ heq
    exact absurd (by rw [heq]; rfl) hrest
  · rfl

theorem parse_and (hleft : parse fuel .atom text = some (left, .keyword .andKw :: rest))
    (hright : parse fuel .conj rest = some (right, rest')) :
    parse (fuel + 1) .conj text = some (.and left right, rest') := by
  rw [parse, hleft]
  simp only [hright, Option.map_some]

theorem parse_disj_of_conj (h : parse fuel .conj text = some (e, rest))
    (hrest : Level.disj.Ends rest) : parse (fuel + 1) .disj text = some (e, rest) := by
  rw [parse, h]
  split
  · rename_i heq
    injection heq with heq
    injection heq with _ heq
    exact absurd (by rw [heq]; rfl) hrest.2
  · rfl

theorem parse_or (hleft : parse fuel .conj text = some (left, .keyword .orKw :: rest))
    (hright : parse fuel .disj rest = some (right, rest')) :
    parse (fuel + 1) .disj text = some (.or left right, rest') := by
  rw [parse, hleft]
  simp only [hright, Option.map_some]

theorem parse_parens (h : parse fuel .disj text = some (e, .rparen :: rest)) :
    parse (fuel + 1) .atom (.lparen :: text) = some (e, rest) := by
  rw [parse, h]

end

/-- The writing of a condition for a level is parsed there with any fuel from `fuel` on, whatever
follows that cannot belong to it. -/
def Parses (level : Level) (fuel : Nat) (e : Expr) : Prop :=
  ∀ more rest, fuel ≤ more → level.Ends rest →
    parse more level (e.render level ++ rest) = some (e, rest)

namespace Parses

variable {fuel : Nat} {e left right : Expr}

theorem mono {level : Level} (h : Parses level fuel e) {fuel' : Nat} (hle : fuel ≤ fuel') :
    Parses level fuel' e :=
  fun more rest hmore => h more rest (hle.trans hmore)

theorem conj (h : Parses .atom fuel e) (hrender : e.render .conj = e.render .atom) :
    Parses .conj (fuel + 1) e := by
  intro more rest hmore hrest
  obtain ⟨more, rfl⟩ := Nat.exists_eq_add_of_le' (Nat.le_of_add_left_le hmore)
  rw [hrender]
  exact parse_conj_of_atom (h more rest (Nat.le_of_succ_le_succ hmore) trivial) hrest

theorem disj (h : Parses .conj fuel e) (hrender : e.render .disj = e.render .conj) :
    Parses .disj (fuel + 1) e := by
  intro more rest hmore hrest
  obtain ⟨more, rfl⟩ := Nat.exists_eq_add_of_le' (Nat.le_of_add_left_le hmore)
  rw [hrender]
  exact parse_disj_of_conj (h more rest (Nat.le_of_succ_le_succ hmore) hrest.1) hrest

theorem parens (h : Parses .disj fuel e)
    (hrender : e.render .atom = .lparen :: (e.render .disj ++ [.rparen])) :
    Parses .atom (fuel + 1) e := by
  intro more rest hmore _
  obtain ⟨more, rfl⟩ := Nat.exists_eq_add_of_le' (Nat.le_of_add_left_le hmore)
  have hinner := h more (.rparen :: rest) (Nat.le_of_succ_le_succ hmore) ⟨nofun, nofun⟩
  rw [hrender, List.cons_append, List.append_assoc]
  exact parse_parens hinner

theorem and (hl : Parses .atom fuel left) (hr : Parses .conj fuel right) :
    Parses .conj (fuel + 1) (.and left right) := by
  intro more rest hmore hrest
  obtain ⟨more, rfl⟩ := Nat.exists_eq_add_of_le' (Nat.le_of_add_left_le hmore)
  have hmore := Nat.le_of_succ_le_succ hmore
  change parse (more + 1) .conj
    (left.render .atom ++ .keyword .andKw :: right.render .conj ++ rest) = _
  rw [List.append_assoc]
  exact parse_and (hl more _ hmore trivial) (hr more rest hmore hrest)

theorem or (hl : Parses .conj fuel left) (hr : Parses .disj fuel right) :
    Parses .disj (fuel + 1) (.or left right) := by
  intro more rest hmore hrest
  obtain ⟨more, rfl⟩ := Nat.exists_eq_add_of_le' (Nat.le_of_add_left_le hmore)
  have hmore := Nat.le_of_succ_le_succ hmore
  change parse (more + 1) .disj
    (left.render .conj ++ .keyword .orKw :: right.render .disj ++ rest) = _
  rw [List.append_assoc]
  exact parse_or (hl more _ hmore nofun) (hr more rest hmore hrest)

end Parses

/-- **A condition that is written out parses back.** -/
theorem parse_render (e : Expr) (level : Level) : Parses level (4 * e.size) e := by
  induction e generalizing level with
  | compare column o operand =>
    have hatom : Parses .atom 1 (.compare column o operand) := by
      intro more rest hmore _
      obtain ⟨more, rfl⟩ := Nat.exists_eq_add_of_le' hmore
      cases operand <;> rfl
    have hconj := hatom.conj rfl
    have hsize : 4 * (Expr.compare column o operand).size = 4 := rfl
    cases level with
    | atom => exact hatom.mono (by omega)
    | conj => exact hconj.mono (by omega)
    | disj => exact (hconj.disj rfl).mono (by omega)
  | and left right ihl ihr =>
    have hsize : 4 * (left.size + right.size) + 4 = 4 * (Expr.and left right).size := rfl
    have hconj : Parses .conj (4 * (left.size + right.size) + 1) (.and left right) :=
      .and ((ihl .atom).mono (by omega)) ((ihr .conj).mono (by omega))
    have hdisj := hconj.disj rfl
    cases level with
    | atom => exact (hdisj.parens rfl).mono (by omega)
    | conj => exact hconj.mono (by omega)
    | disj => exact hdisj.mono (by omega)
  | or left right ihl ihr =>
    have hsize : 4 * (left.size + right.size) + 4 = 4 * (Expr.or left right).size := rfl
    have hdisj : Parses .disj (4 * (left.size + right.size) + 1) (.or left right) :=
      .or ((ihl .conj).mono (by omega)) ((ihr .disj).mono (by omega))
    have hatom := hdisj.parens rfl
    cases level with
    | atom => exact hatom.mono (by omega)
    | conj => exact (hatom.conj rfl).mono (by omega)
    | disj => exact hdisj.mono (by omega)

theorem Expr.size_lt_length (level : Level) (e : Expr) : e.size < (e.render level).length := by
  induction e generalizing level with
  | compare => simp [Expr.render, Expr.size]
  | and left right ihl ihr =>
    have hl := ihl .atom
    have hr := ihr .conj
    cases level <;> simp [Expr.render, Expr.size] <;> omega
  | or left right ihl ihr =>
    have hl := ihl .conj
    have hr := ihr .disj
    cases level <;> simp [Expr.render, Expr.size] <;> omega

/-- The conditions between `AND`s, each in parentheses where it needs them. -/
def renderAll (conditions : List Expr) : List Token :=
  [.keyword .andKw].intercalate (conditions.map (·.render .atom))

@[simp] theorem renderAll_singleton (e : Expr) : renderAll [e] = e.render .atom :=
  List.intercalate_singleton

theorem renderAll_cons (e : Expr) {conditions : List Expr} (h : conditions ≠ []) :
    renderAll (e :: conditions) = e.render .atom ++ .keyword .andKw :: renderAll conditions := by
  obtain ⟨second, rest, rfl⟩ := List.exists_cons_of_ne_nil h
  simp [renderAll]

theorem renderAll_append {conditions more : List Expr} (hconditions : conditions ≠ [])
    (hmore : more ≠ []) : renderAll (conditions ++ more) =
      renderAll conditions ++ .keyword .andKw :: renderAll more := by
  induction conditions with
  | nil => contradiction
  | cons first conditions ih =>
    cases conditions with
    | nil => rw [List.singleton_append, renderAll_cons first hmore, renderAll_singleton]
    | cons second conditions =>
      have hne : second :: conditions ≠ [] := List.cons_ne_nil second conditions
      rw [List.cons_append, renderAll_cons first (List.append_ne_nil_of_left_ne_nil hne more),
        ih hne, renderAll_cons first hne, List.append_assoc, List.cons_append]

/-- Lists of conditions that are joined in turn. -/
theorem renderAll_flatMap {α : Type*} (parts : α → List Expr) (xs : List α)
    (h : ∀ x ∈ xs, parts x ≠ []) :
    renderAll (xs.flatMap parts) =
      [.keyword .andKw].intercalate (xs.map fun x => renderAll (parts x)) := by
  induction xs with
  | nil => rfl
  | cons x xs ih =>
    obtain ⟨hx, hxs⟩ := List.forall_mem_cons.1 h
    cases xs with
    | nil => rw [List.flatMap_cons, List.flatMap_nil, List.append_nil, List.map_singleton,
        List.intercalate_singleton]
    | cons y ys =>
      have hmore : (y :: ys).flatMap parts ≠ [] := by
        rw [List.flatMap_cons]
        exact List.append_ne_nil_of_left_ne_nil (hxs y (List.mem_cons_self ..)) _
      rw [List.flatMap_cons, renderAll_append hx hmore, ih hxs]
      simp only [List.map_cons, List.intercalate_cons_cons, List.append_assoc,
        List.singleton_append]

theorem numbers_append (before after : List Token) :
    numbers (before ++ after) = numbers before ++ numbers after := List.filterMap_append

theorem numbers_renderAll (conditions : List Expr) :
    numbers (renderAll conditions) = conditions.flatMap fun e => numbers (e.render .atom) := by
  induction conditions with
  | nil => rfl
  | cons first conditions ih =>
    cases conditions with
    | nil => rw [renderAll_singleton, List.flatMap_cons, List.flatMap_nil, List.append_nil]
    | cons second conditions =>
      rw [renderAll_cons first (List.cons_ne_nil second conditions), numbers_append,
        List.flatMap_cons, ← ih]
      rfl

theorem parse_renderAll {first : Expr} {conditions : List Expr} {fuel : Nat} {rest : List Token}
    (hfuel : 4 * (conjAll first conditions).size ≤ fuel) (hrest : Level.conj.Ends rest) :
    parse (fuel + 1) .conj (renderAll (first :: conditions) ++ rest) =
      some (conjAll first conditions, rest) := by
  induction conditions generalizing first fuel with
  | nil =>
    rw [renderAll_singleton]
    exact parse_conj_of_atom (parse_render first .atom fuel rest hfuel trivial) hrest
  | cons second conditions ih =>
    have hsize : 4 * (first.size + (conjAll second conditions).size + 1) ≤ fuel := hfuel
    obtain ⟨fuel, rfl⟩ := Nat.exists_eq_add_of_le' (show 1 ≤ fuel by omega)
    have hfirst := parse_render first .atom (fuel + 1)
      (.keyword .andKw :: (renderAll (second :: conditions) ++ rest)) (by omega) trivial
    rw [renderAll_cons first (List.cons_ne_nil second conditions), List.append_assoc,
      List.cons_append]
    exact parse_and hfirst (ih (by omega))

theorem conjAll_size_lt (first : Expr) (conditions : List Expr) :
    (conjAll first conditions).size < (renderAll (first :: conditions)).length := by
  induction conditions generalizing first with
  | nil =>
    rw [renderAll_singleton]
    exact first.size_lt_length .atom
  | cons second conditions ih =>
    have hfirst := first.size_lt_length .atom
    have hrest := ih second
    rw [renderAll_cons first (List.cons_ne_nil second conditions), List.length_append,
      List.length_cons]
    show first.size + (conjAll second conditions).size + 1 < _
    omega

/-- `WHERE` and the conditions, or nothing. -/
def renderWhere : List Expr → List Token
  | [] => []
  | conditions => .keyword .whereKw :: renderAll conditions

theorem renderWhere_of_ne_nil {conditions : List Expr} (h : conditions ≠ []) :
    renderWhere conditions = .keyword .whereKw :: renderAll conditions := by
  obtain ⟨first, rest, rfl⟩ := List.exists_cons_of_ne_nil h
  rfl

/-- **The conditions of a `WHERE` parse back**, whatever clause follows them. -/
theorem whereClause_renderWhere {conditions : List Expr} {rest : List Token}
    (hrest : Level.disj.Ends rest) (hwhere : rest.head? ≠ some (.keyword .whereKw)) :
    whereClause (renderWhere conditions ++ rest) = some (conjunction conditions, rest) := by
  cases conditions with
  | nil =>
    rw [renderWhere, List.nil_append, whereClause]
    · rfl
    · rintro text rfl
      exact hwhere rfl
  | cons first conditions =>
    have hlt := conjAll_size_lt first conditions
    have hlength : (renderAll (first :: conditions) ++ rest).length =
        (renderAll (first :: conditions)).length + rest.length := List.length_append
    obtain ⟨fuel, hfuel⟩ : ∃ fuel,
        4 * (renderAll (first :: conditions) ++ rest).length = fuel + 2 :=
      ⟨4 * (renderAll (first :: conditions) ++ rest).length - 2, by omega⟩
    have hsize : 4 * (conjAll first conditions).size ≤ fuel := by omega
    have hparse := parse_disj_of_conj (parse_renderAll hsize hrest.1) hrest
    change (parse (4 * (renderAll (first :: conditions) ++ rest).length) .disj
      (renderAll (first :: conditions) ++ rest)).map _ = _
    rw [hfuel, hparse]
    rfl

/-! ## Words of longer texts -/

section
variable {word text before after : List Char}

theorem wordsFrom_append_stop {c : Char} (hc : c = ' ' ∨ c = '(' ∨ c = ')') :
    wordsFrom word (before ++ c :: after) =
      wordsFrom word before ++ (if c = ' ' then [] else [[c]]) ++ words after := by
  induction before generalizing word with
  | nil =>
    rw [List.nil_append, wordsFrom, wordsFrom]
    by_cases hspace : c = ' '
    · rw [if_pos hspace, if_pos hspace, List.append_nil]
      rfl
    · rw [if_neg hspace, if_neg hspace, if_pos (hc.resolve_left hspace), List.append_assoc]
      rfl
  | cons b before ih =>
    rw [List.cons_append, wordsFrom, wordsFrom, ih, ih]
    split
    · simp only [List.append_assoc]
    · split
      · simp only [List.append_assoc, List.cons_append]
      · rfl

/-- Words are cut at a space. -/
theorem words_append (h : before.getLast? = some ' ') :
    words (before ++ after) = words before ++ words after := by
  obtain ⟨init, rfl⟩ := List.getLast?_eq_some_iff.1 h
  rw [List.append_assoc, List.singleton_append, words, words, wordsFrom_append_stop (.inl rfl),
    wordsFrom_append_stop (.inl rfl)]
  simp [words, wordsFrom, flush]

theorem wordsFrom_plain (h : ∀ c ∈ text, c ≠ ' ' ∧ c ≠ '(' ∧ c ≠ ')') :
    wordsFrom word text = flush (word ++ text) := by
  induction text generalizing word with
  | nil => rw [wordsFrom, List.append_nil]
  | cons c text ih =>
    obtain ⟨⟨hspace, hopen, hclose⟩, h⟩ := List.forall_mem_cons.1 h
    rw [wordsFrom, if_neg hspace, if_neg (by simp [hopen, hclose]), ih h, List.append_assoc]
    rfl

end

/-- Words are cut before a space. -/
theorem tokens_append_space (before : String) {after : String}
    (h : after.toList.head? = some ' ') :
    tokens (before ++ after) = tokens before ++ tokens after := by
  obtain ⟨rest, hrest⟩ := List.head?_eq_some_iff.1 h
  have hcut : words (before.toList ++ ' ' :: rest) = words before.toList ++ words rest := by
    rw [words, wordsFrom_append_stop (.inl rfl), if_pos rfl, List.append_nil]
    rfl
  rw [tokens, String.toList_append, hrest, hcut, List.map_append, tokens, tokens, hrest]
  rfl

theorem tokens_append {before : String} (after : String) (h : before.toList.getLast? = some ' ') :
    tokens (before ++ after) = tokens before ++ tokens after := by
  rw [tokens, String.toList_append, words_append h, List.map_append]
  rfl

theorem tokens_rparen (before : String) : tokens (before ++ ")") = tokens before ++ [.rparen] := by
  rw [tokens, String.toList_append]
  change (words (before.toList ++ ')' :: [])).map token = _
  rw [words, wordsFrom_append_stop (.inr (.inr rfl)), List.map_append, List.map_append]
  exact List.append_nil _

/-- The tokens of texts that are joined by ` AND `. -/
theorem tokens_join (texts : List String) :
    tokens (" AND ".intercalate texts) =
      [.keyword .andKw].intercalate (texts.map tokens) := by
  induction texts with
  | nil => rfl
  | cons first texts ih =>
    cases texts with
    | nil => rw [String.intercalate_singleton, List.map_singleton, List.intercalate_singleton]
    | cons second texts =>
      have hand : tokens " AND " = [.keyword .andKw] := by decide
      have hspace : (" AND " ++ " AND ".intercalate (second :: texts)).toList.head? = some ' ' := by
        rw [String.toList_append]
        rfl
      rw [String.intercalate_cons_cons, String.append_assoc, tokens_append_space _ hspace,
        tokens_append _ (by decide), hand, ih]
      exact (List.append_assoc ..).symm.trans List.intercalate_cons_cons.symm

/-- A word that begins with the sign of placeholders is one. -/
theorem token_placeholder (digits : List Char) :
    token ('$' :: digits) = .placeholder (Nat.ofDigitChars 10 digits 0) := by
  have hnone : keywords.lookup (String.ofList ('$' :: digits)) = none := by
    rw [List.lookup_eq_none_iff]
    intro entry hentry
    rw [bne_iff_ne]
    intro heq
    have hfirst : ∀ entry ∈ keywords, entry.1.toList.head? ≠ some '$' := by decide
    refine hfirst entry hentry ?_
    rw [← heq, String.toList_ofList]
    rfl
  rw [token, hnone]
  rfl

theorem tokens_placeholder (n : Nat) : tokens ("$" ++ toString n) = [.placeholder n] := by
  have hdigits : (toString n).toList = Nat.toDigits 10 n := Nat.toList_repr
  have hwords : words ('$' :: Nat.toDigits 10 n) = [('$' :: Nat.toDigits 10 n)] := by
    refine wordsFrom_plain fun c hc => ?_
    rcases List.mem_cons.1 hc with rfl | hc
    · decide
    · have := Nat.isDigit_of_mem_toDigits (by decide) (by decide) hc
      refine ⟨?_, ?_, ?_⟩ <;> rintro rfl <;> cases this
  rw [tokens, String.toList_append, hdigits]
  change (words ('$' :: Nat.toDigits 10 n)).map token = _
  rw [hwords, List.map_singleton, token_placeholder, Nat.ofDigitChars_ten_toDigits]

end Sql

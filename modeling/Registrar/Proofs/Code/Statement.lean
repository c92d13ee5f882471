import Mathlib
import Registrar.Proofs.Build.Grouping
import Registrar.Proofs.Code.Literal
import Registrar.Text.Alphanumeric
import Registrar.Text.Split

/-!
# Statements of generated code

A statement shows what it was written for. Its parts are found one after another from the left: a
name ends at the bracket behind it, a number or a constant at the comma or the bracket, and a
literal at its own quote, whatever its text holds. Main statements:
`GoCode.builderStatement_inj`, and `Member.eq_of_isAddedBy` for the members of all three kinds.
-/

namespace Registrar

open Text (append_mark_inj)
open Text.Literal (write chars chars_append_inj newline_not_mem_chars)

namespace GoCode

/-! ## Numbers -/

theorem not_mem_toString {c : Char} (hdigit : c.isDigit = false) (hminus : c ≠ '-') (n : Int) :
    c ∉ (toString n).toList := by
  have hnat : ∀ k : Nat, c ∉ k.repr.toList := by
    intro k hc
    rw [Nat.repr_eq_ofList_toDigits, String.toList_ofList] at hc
    rw [Nat.isDigit_of_mem_toDigits (by decide) (by decide) hc] at hdigit
    cases hdigit
  rw [Int.toString_eq_repr, Int.repr_eq_if]
  split
  · exact hnat _
  · rw [String.toList_append, List.mem_append, not_or]
    exact ⟨by simpa using hminus, hnat _⟩

/-- A number ends where its digits end. -/
theorem toString_append_inj {mark : Char} (hdigit : mark.isDigit = false) (hminus : mark ≠ '-')
    {i j : Int64} {r s : List Char}
    (h : (toString i.toInt).toList ++ mark :: r = (toString j.toInt).toList ++ mark :: s) :
    i = j ∧ r = s := by
  have hmark := not_mem_toString hdigit hminus
  obtain ⟨hdigits, hrest⟩ := append_mark_inj (hmark i.toInt) (hmark j.toInt) h
  rw [String.toList_inj, Int.toString_eq_repr, Int.toString_eq_repr, Int.repr_inj] at hdigits
  exact ⟨Int64.toInt_inj.mp hdigits, hrest⟩

/-! ## Calls -/

theorem toList_call (function : String) (args : List String) :
    (call function args).toList =
      function.toList ++ '(' :: ((", ".intercalate args).toList ++ [')']) := by
  simp [call]

/-- Arguments behind the first one. -/
def moreArgs (args : List String) : List Char :=
  args.flatMap fun arg => ',' :: ' ' :: arg.toList

theorem moreArgs_cons_append (arg : String) (args : List String) (r : List Char) :
    moreArgs (arg :: args) ++ r = ',' :: ' ' :: (arg.toList ++ (moreArgs args ++ r)) := by
  simp [moreArgs]

theorem toList_intercalate_cons (arg : String) (args : List String) :
    (", ".intercalate (arg :: args)).toList = arg.toList ++ moreArgs args := by
  induction args generalizing arg with
  | nil => simp [moreArgs]
  | cons next args ih => simp [String.intercalate_cons_cons, ih, moreArgs]

/-- A call shows the name of its function, which holds no bracket. -/
theorem call_append_inj {f g : String} (hf : '(' ∉ f.toList) (hg : '(' ∉ g.toList)
    {xs ys : List String} {r s : List Char}
    (h : (call f xs).toList ++ r = (call g ys).toList ++ s) :
    f = g ∧ (", ".intercalate xs).toList ++ ')' :: r =
      (", ".intercalate ys).toList ++ ')' :: s := by
  simp only [toList_call, List.append_assoc, List.cons_append, List.nil_append] at h
  obtain ⟨hname, hargs⟩ := append_mark_inj hf hg h
  exact ⟨String.toList_inj.mp hname, hargs⟩

theorem newline_not_mem_call {f : String} {args : List String} (hf : '\n' ∉ f.toList)
    (hargs : ∀ arg ∈ args, '\n' ∉ arg.toList) : '\n' ∉ (call f args).toList := by
  cases args with
  | nil => simpa [toList_call] using hf
  | cons arg args =>
    obtain ⟨harg, hargs⟩ := List.forall_mem_cons.mp hargs
    rw [toList_call, toList_intercalate_cons]
    simpa [hf, harg, moreArgs] using hargs

/-! ## Literals as arguments -/

section Literals

variable {x y : String} {xs ys : List String} {r s : List Char}

theorem newline_not_mem_write (text : String) : '\n' ∉ (write text).toList := by
  rw [Text.Literal.toList_write]
  exact newline_not_mem_chars text.toList

/-- A literal shows its text and where the argument ends. -/
theorem literal_append_inj (h : (write x).toList ++ r = (write y).toList ++ s) :
    x = y ∧ r = s := by
  rw [Text.Literal.toList_write, Text.Literal.toList_write] at h
  obtain ⟨htext, hrest⟩ := chars_append_inj h
  exact ⟨String.toList_inj.mp htext, hrest⟩

theorem firstLiteral_append_inj
    (h : (", ".intercalate (write x :: xs)).toList ++ r =
      (", ".intercalate (write y :: ys)).toList ++ s) :
    x = y ∧ moreArgs xs ++ r = moreArgs ys ++ s := by
  rw [toList_intercalate_cons, toList_intercalate_cons, List.append_assoc, List.append_assoc] at h
  exact literal_append_inj h

theorem nextLiteral_append_inj
    (h : moreArgs (write x :: xs) ++ r = moreArgs (write y :: ys) ++ s) :
    x = y ∧ moreArgs xs ++ r = moreArgs ys ++ s := by
  simp only [moreArgs_cons_append, List.cons.injEq, true_and] at h
  exact literal_append_inj h

/-- Literals that follow others end at the bracket that closes the call. -/
theorem moreLiterals_append_inj
    (h : moreArgs (xs.map write) ++ ')' :: r = moreArgs (ys.map write) ++ ')' :: s) :
    xs = ys ∧ r = s := by
  induction xs generalizing ys with
  | nil =>
    cases ys with
    | nil => exact ⟨rfl, (List.cons.inj h).2⟩
    | cons y ys => cases (List.cons.inj h).1
  | cons x xs ih =>
    cases ys with
    | nil => cases (List.cons.inj h).1
    | cons y ys =>
      obtain ⟨rfl, hmore⟩ := nextLiteral_append_inj h
      obtain ⟨rfl, hrest⟩ := ih hmore
      exact ⟨rfl, hrest⟩

/-- The literals of a call are as many and the same as its texts. -/
theorem literals_append_inj
    (h : (", ".intercalate (xs.map write)).toList ++ ')' :: r =
      (", ".intercalate (ys.map write)).toList ++ ')' :: s) : xs = ys ∧ r = s := by
  cases xs with
  | nil =>
    cases ys with
    | nil => simpa using h
    | cons y ys => simp [chars] at h
  | cons x xs =>
    cases ys with
    | nil => simp [chars] at h
    | cons y ys =>
      obtain ⟨rfl, hmore⟩ := firstLiteral_append_inj h
      obtain ⟨rfl, hrest⟩ := moreLiterals_append_inj hmore
      exact ⟨rfl, hrest⟩

end Literals

end GoCode

/-! ## Types -/

namespace ValueType

/-- The function that makes the value type. -/
def maker : ValueType → String
  | .range _ _ => "metadata.MakeTypeRange"
  | .text => "metadata.MakeTypeText"
  | .float => "metadata.MakeTypeFloat"
  | .bool => "metadata.MakeTypeBool"
  | .enum _ => "metadata.MakeTypeEnum"
  | .complex => "metadata.MakeTypeComplex"

/-- What the function is called with. -/
def makerArgs : ValueType → List String
  | .range min max => [toString min.toInt, toString max.toInt]
  | .enum values => values.map write
  | .text | .float | .bool | .complex => []

theorem eq_call_of_code? {t : ValueType} {code : String} (h : t.code? = some code) :
    code = GoCode.call t.maker t.makerArgs := by
  cases t with
  | enum values =>
    cases values with
    | nil => cases h
    | cons first rest => exact (Option.some.inj h).symm
  | _ => exact (Option.some.inj h).symm

theorem bracket_not_mem_maker (t : ValueType) : '(' ∉ t.maker.toList := by
  cases t <;> simp [maker]

/-- An expression for a value type shows the type and its own end. -/
theorem code?_append_inj {t u : ValueType} {x y : String} (ht : t.code? = some x)
    (hu : u.code? = some y) {r s : List Char} (h : x.toList ++ r = y.toList ++ s) :
    t = u ∧ r = s := by
  rw [eq_call_of_code? ht, eq_call_of_code? hu] at h
  obtain ⟨hmaker, hargs⟩ :=
    GoCode.call_append_inj (bracket_not_mem_maker t) (bracket_not_mem_maker u) h
  -- the name of the function tells the form of the type
  cases t <;> cases u <;> simp [maker] at hmaker
  case range.range min max min' max' =>
    simp only [makerArgs, GoCode.toList_intercalate_cons, List.append_assoc,
      GoCode.moreArgs_cons_append] at hargs
    obtain ⟨hmin, htail⟩ := GoCode.toString_append_inj rfl (by decide) hargs
    obtain ⟨hmax, hrest⟩ :=
      GoCode.toString_append_inj rfl (by decide) (List.cons.inj htail).2
    exact ⟨by rw [hmin, hmax], hrest⟩
  case enum.enum values values' =>
    obtain ⟨rfl, hrest⟩ := GoCode.literals_append_inj hargs
    exact ⟨rfl, hrest⟩
  all_goals exact ⟨rfl, (List.cons.inj hargs).2⟩

theorem newline_not_mem_code? {t : ValueType} {code : String} (h : t.code? = some code) :
    '\n' ∉ code.toList := by
  rw [eq_call_of_code? h]
  refine GoCode.newline_not_mem_call (by cases t <;> simp [maker]) fun arg harg => ?_
  cases t with
  | range min max =>
    rcases List.mem_pair.mp harg with rfl | rfl <;>
      exact GoCode.not_mem_toString rfl (by decide) _
  | enum values =>
    obtain ⟨value, -, rfl⟩ := List.mem_map.mp harg
    exact GoCode.newline_not_mem_write value
  | _ => cases harg

end ValueType

theorem SettingType.code_inj {t u : SettingType} (h : t.code = u.code) : t = u := by
  cases t <;> cases u <;> first | rfl | exact absurd h (by decide)

/-! ## The builder -/

theorem Usage.code_inj {u v : Usage} (h : u.code = v.code) : u = v := by
  cases u <;> cases v <;> first | rfl | exact absurd h (by decide)

theorem Usage.comma_not_mem_code (u : Usage) : ',' ∉ u.code.toList := by
  cases u <;> decide

namespace GoCode

attribute [ext] Header

/-- Whether a text holds nothing but letters, digits and underscores, as identifiers do. -/
def isWord (text : String) : Bool :=
  text.toList.all fun c => Text.isAlphanumeric c || c = '_'

theorem not_mem_of_isWord {text : String} (h : isWord text = true) {c : Char}
    (hc : Text.isAlphanumeric c = false) (hunderscore : c ≠ '_') : c ∉ text.toList := by
  intro hmem
  have hword := List.all_eq_true.mp h c hmem
  simp [hc, hunderscore] at hword

/-- The function that makes the builder of a plugin. -/
def builderMaker (pluginType : String) : String :=
  "registry.MakePluginTypeBuilder[" ++ pluginType ++ "]"

theorem toList_builderMaker (pluginType : String) :
    (builderMaker pluginType).toList =
      "registry.MakePluginTypeBuilder[".toList ++ pluginType.toList ++ "]".toList := by
  unfold builderMaker
  rw [String.toList_append, String.toList_append]

theorem not_mem_builderMaker {pluginType : String} (h : isWord pluginType = true) {c : Char}
    (hc : Text.isAlphanumeric c = false) (hunderscore : c ≠ '_')
    (hcode : c ∉ "registry.MakePluginTypeBuilder[".toList ++ "]".toList) :
    c ∉ (builderMaker pluginType).toList := by
  have htype := not_mem_of_isWord h hc hunderscore
  rw [toList_builderMaker]
  simp only [List.mem_append, not_or] at hcode ⊢
  exact ⟨⟨hcode.1, htype⟩, hcode.2⟩

/-- The statement that makes the builder of a plugin. -/
def builderStatement (h : Header) : String :=
  "\tbuilder := " ++
    call (builderMaker h.pluginType)
      [write h.moduleName, write h.name, write h.description, h.usage.code, write h.version]

theorem opening_eq (h : Header) :
    opening h = line "func init() \x7b" ++ line (builderStatement h) := rfl

/-- The statement that makes the builder shows what it is made with. -/
theorem builderStatement_inj {h k : Header} (hh : isWord h.pluginType = true)
    (hk : isWord k.pluginType = true) (heq : builderStatement h = builderStatement k) : h = k := by
  rw [← String.toList_inj, builderStatement, builderStatement, String.toList_append,
    String.toList_append] at heq
  have hcall := congrArg (· ++ []) (List.append_cancel_left heq)
  -- a word holds no bracket, so the type of the plugin cannot end the name of the function
  have hbracket : ∀ {pluginType}, isWord pluginType = true →
      '(' ∉ (builderMaker pluginType).toList :=
    fun hword => not_mem_builderMaker hword (by decide) (by decide) (by decide)
  obtain ⟨hmaker, hargs⟩ := call_append_inj (hbracket hh) (hbracket hk) hcall
  have htype : h.pluginType = k.pluginType := by
    have hmakers := String.toList_inj.mpr hmaker
    rw [toList_builderMaker, toList_builderMaker] at hmakers
    exact String.toList_inj.mp (List.append_cancel_left (List.append_cancel_right hmakers))
  obtain ⟨hmodule, hargs⟩ := firstLiteral_append_inj hargs
  obtain ⟨hname, hargs⟩ := nextLiteral_append_inj hargs
  obtain ⟨hdescription, hargs⟩ := nextLiteral_append_inj hargs
  -- the usage is no literal, and ends at the comma in front of the version
  simp only [moreArgs_cons_append, List.cons.injEq, true_and] at hargs
  obtain ⟨husage, hargs⟩ := append_mark_inj h.usage.comma_not_mem_code
    k.usage.comma_not_mem_code hargs
  obtain ⟨hversion, -⟩ := literal_append_inj (List.cons.inj hargs).2
  exact Header.ext htype hmodule hname hdescription
    (Usage.code_inj (String.toList_inj.mp husage)) hversion

theorem newline_not_mem_builderStatement {h : Header} (hh : isWord h.pluginType = true) :
    '\n' ∉ (builderStatement h).toList := by
  have hmaker : '\n' ∉ (builderMaker h.pluginType).toList :=
    not_mem_builderMaker hh (by decide) (by decide) (by decide)
  have husage : '\n' ∉ h.usage.code.toList := by cases h.usage <;> simp [Usage.code]
  have hargs : ∀ arg ∈ [write h.moduleName, write h.name, write h.description, h.usage.code,
      write h.version], '\n' ∉ arg.toList := by
    simp [husage, newline_not_mem_chars]
  simpa [builderStatement] using newline_not_mem_call hmaker hargs

end GoCode

/-! ## Members -/

attribute [ext] StateDecl ActionDecl ConfigDecl

/-- A member of a plugin, of any kind. -/
inductive Member where
  | state (s : StateDecl)
  | action (a : ActionDecl)
  | config (c : ConfigDecl)
  deriving DecidableEq, Repr

namespace Member

/-- The function of the builder that adds the member. -/
def adder : Member → String
  | .state _ => "AddState"
  | .action _ => "AddAction"
  | .config _ => "AddConfig"

/-- The Go name that the member belongs to. -/
def target : Member → String
  | .state s => s.field
  | .action a => a.method
  | .config c => c.field

/-- The name of the member. -/
def name : Member → String
  | .state s => s.name
  | .action a => a.name
  | .config c => c.name

/-- The description of the member. -/
def description : Member → String
  | .state s => s.description
  | .action a => a.description
  | .config c => c.description

/-- The expression for the type of the member. -/
def type? : Member → Option String
  | .state s => s.valueType.code?
  | .action a => a.valueType.code?
  | .config c => some c.valueType.code

/-- The statement that adds the member to the builder. -/
def statement? (m : Member) : Option String :=
  m.type?.map fun type => "\tbuilder." ++
    GoCode.call m.adder [write m.target, write m.name, write m.description, type]

/-- Whether a statement adds the member to the builder. -/
def IsAddedBy (m : Member) (statement : String) : Prop :=
  m.statement? = some statement

theorem bracket_not_mem_adder (m : Member) : '(' ∉ m.adder.toList := by
  cases m <;> simp [adder]

/-- A member is what the builder is told of it. -/
theorem eq_of_parts {m n : Member} {x y : String} (hm : m.type? = some x) (hn : n.type? = some y)
    (hadder : m.adder = n.adder) (htarget : m.target = n.target) (hname : m.name = n.name)
    (hdescription : m.description = n.description) (htype : x = y) : m = n := by
  -- the function of the builder tells the kind of the member
  cases m <;> cases n <;> simp [adder] at hadder
  case state.state s t =>
    obtain ⟨hvalue, -⟩ := ValueType.code?_append_inj hm hn (congrArg (·.toList ++ []) htype)
    exact congrArg state (StateDecl.ext htarget hname hdescription hvalue)
  case action.action a b =>
    obtain ⟨hvalue, -⟩ := ValueType.code?_append_inj hm hn (congrArg (·.toList ++ []) htype)
    exact congrArg action (ActionDecl.ext htarget hname hdescription hvalue)
  case config.config c d =>
    have hcode : c.valueType.code = d.valueType.code :=
      (Option.some.inj hm).trans (htype.trans (Option.some.inj hn).symm)
    exact congrArg config (ConfigDecl.ext htarget hname hdescription (SettingType.code_inj hcode))

/-- A statement shows the member that it adds. -/
theorem eq_of_isAddedBy {m n : Member} {statement : String} (hm : m.IsAddedBy statement)
    (hn : n.IsAddedBy statement) : m = n := by
  obtain ⟨type, htype, rfl⟩ := Option.map_eq_some_iff.mp hm
  obtain ⟨type', htype', hx⟩ := Option.map_eq_some_iff.mp hn
  rw [← String.toList_inj, String.toList_append, String.toList_append] at hx
  have hcall := congrArg (· ++ []) (List.append_cancel_left hx).symm
  obtain ⟨hadder, hargs⟩ :=
    GoCode.call_append_inj m.bracket_not_mem_adder n.bracket_not_mem_adder hcall
  obtain ⟨htarget, hargs⟩ := GoCode.firstLiteral_append_inj hargs
  obtain ⟨hname, hargs⟩ := GoCode.nextLiteral_append_inj hargs
  obtain ⟨hdescription, hargs⟩ := GoCode.nextLiteral_append_inj hargs
  have htypes : type = type' := by
    simpa [GoCode.moreArgs_cons_append, String.toList_inj] using hargs
  exact eq_of_parts htype htype' hadder htarget hname hdescription htypes

theorem IsAddedBy.newline_not_mem {m : Member} {statement : String} (h : m.IsAddedBy statement) :
    '\n' ∉ statement.toList := by
  obtain ⟨type, htype, rfl⟩ := Option.map_eq_some_iff.mp h
  have hadder : '\n' ∉ m.adder.toList := by cases m <;> simp [adder]
  have hcode : '\n' ∉ type.toList := by
    cases m with
    | state s => exact ValueType.newline_not_mem_code? htype
    | action a => exact ValueType.newline_not_mem_code? htype
    | config c =>
      obtain rfl := Option.some.inj htype
      cases c.valueType <;> simp [SettingType.code]
  have hargs : ∀ arg ∈ [write m.target, write m.name, write m.description, type],
      '\n' ∉ arg.toList := by
    simp [hcode, newline_not_mem_chars]
  simpa using GoCode.newline_not_mem_call hadder hargs

end Member

end Registrar

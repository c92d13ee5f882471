import Registrar.Json.Writer
import Registrar.Proofs.Json.Numeral
import Registrar.Proofs.Json.Reader
import Registrar.Proofs.Json.Spelling

/-!
# Values read back

The text of a value is read as the value, wherever a value may stand: a reader that stands at a
value stands behind it when the bytes are taken, and the containers around are as they were. Only
floating point numbers are left out, whose quick rule may miss the number that was written. Main
statements: `readsAs_write`, and `Value.ofBytes?_write` for a text that is nothing but the value.
-/

namespace Registrar.Json

open Registrar.Text (Bytes)

/-! ## Values with exact texts -/

/-- The value has integers of 64 bits for its numbers, and at most so many containers inside one
another. -/
inductive Value.Plain : Nat → Value → Prop where
  | null {depth : Nat} : Plain depth .null
  | boolean {depth : Nat} (value : Bool) : Plain depth (.boolean value)
  | integer {depth : Nat} {n : Int} (h : Numeral.Fits n) : Plain depth (.ofInt n)
  | string {depth : Nat} (text : String) : Plain depth (.string text)
  | array {depth : Nat} {items : List Value} (h : ∀ item ∈ items, Plain depth item) :
      Plain (depth + 1) (.array items)
  | object {depth : Nat} {members : List (String × Value)}
      (h : ∀ member ∈ members, Plain depth member.2) : Plain (depth + 1) (.object members)

namespace Reader

variable {r r' r'' : Reader} {b : UInt8} {bytes more : Bytes} {stack : List Frame} {v : Value}

/-! ## Runs -/

/-- Takes one byte, before which a numeral may end. -/
def take? (r : Reader) (b : UInt8) : Option Reader :=
  (r.settle b).bind (·.consume b)

/-- The reader takes all the bytes. -/
def Run (r : Reader) (bytes : Bytes) (r' : Reader) : Prop :=
  bytes.foldlM take? r = some r'

theorem Run.nil : r.Run [] r :=
  rfl

theorem Run.cons (h : r.take? b = some r') (hrest : r'.Run bytes r'') : r.Run (b :: bytes) r'' := by
  rw [Run, List.foldlM_cons, h]
  exact hrest

theorem Run.append (h : r.Run bytes r') (hrest : r'.Run more r'') : r.Run (bytes ++ more) r'' := by
  rw [Run, List.foldlM_append, h]
  exact hrest

/-- The rest of a word. -/
theorem run_word {rest : Bytes} (h : rest ≠ []) :
    Run ⟨stack, .word rest v⟩ rest (deliver v stack) := by
  induction rest with
  | nil => exact absurd rfl h
  | cons b rest ih =>
    cases rest with
    | nil => exact Run.cons (if_pos rfl) Run.nil
    | cons next rest => exact Run.cons (if_pos rfl) (ih nofun)

/-- What takes bytes inside a mode of the reader takes them through the reader. -/
theorem run_of_foldlM {σ : Type} {step : σ → UInt8 → Option σ} (inside : σ → Reader)
    (hstep : ∀ s b s', step s b = some s' → (inside s).take? b = some (inside s')) {s s' : σ}
    (h : bytes.foldlM step s = some s') : (inside s).Run bytes (inside s') := by
  induction bytes generalizing s with
  | nil =>
    cases h
    exact Run.nil
  | cons b bytes ih =>
    obtain ⟨next, hnext, hrest⟩ := Option.bind_eq_some_iff.mp h
    exact Run.cons (hstep s b next hnext) (ih hrest)

/-- The bytes of a string. -/
theorem run_text (role : Role) {s s' : Spelling} (h : bytes.foldlM Spelling.more? s = some s') :
    Run ⟨stack, .text role s⟩ bytes ⟨stack, .text role s'⟩ := by
  refine run_of_foldlM (fun s => ⟨stack, .text role s⟩) ?_ h
  intro s b s' hmore
  simp [take?, settle, consume, Spelling.extend_of_more? hmore]

/-- The bytes of a numeral. -/
theorem run_numeral {n n' : Numeral} (h : bytes.foldlM Numeral.more? n = some n') :
    Run ⟨stack, .numeral n⟩ bytes ⟨stack, .numeral n'⟩ := by
  refine run_of_foldlM (fun n => ⟨stack, .numeral n⟩) ?_ h
  intro n b n' hmore
  simp [take?, settle, consume, Numeral.extend_of_more? hmore]

/-! ## Where values stand -/

/-- A value begins with the next byte, inside the containers. -/
def AtValue (r : Reader) (stack : List Frame) : Prop :=
  ∀ b, isBlankByte b = false → b ≠ 0x5d → r.take? b = openValue stack b

/-- A member of an object begins with the next byte. -/
def AtMember (r : Reader) (members : List (String × Value)) (stack : List Frame) : Prop :=
  r.take? 0x22 = some ⟨stack, .text (.name members) Spelling.start⟩

/-- Before a comma, before a bracket and at the end of the text the reader is `r'`. It differs from
`r` where a numeral ends. -/
structure SettlesTo (r r' : Reader) : Prop where
  mark : ∀ b ∈ [0x2c, 0x5d, 0x7d], r.settle b = some r'
  finish : r.settleAtEnd = some r'

theorem atValue_value (stack : List Frame) : AtValue ⟨stack, .value⟩ stack := by
  intro b hblank _
  simp [take?, settle, consume, hblank]

/-- The first item of an array is read as behind a comma. -/
theorem atValue_arrayStart (stack : List Frame) :
    AtValue ⟨stack, .arrayStart⟩ (.item [] :: stack) := by
  intro b hblank hbracket
  simp [take?, settle, consume, hblank, hbracket]

theorem atMember_objectStart (stack : List Frame) : AtMember ⟨stack, .objectStart⟩ [] stack :=
  rfl

theorem atMember_objectName (members : List (String × Value)) (stack : List Frame) :
    AtMember ⟨stack, .objectName members⟩ members stack :=
  rfl

theorem settlesTo_deliver (v : Value) (stack : List Frame) :
    SettlesTo (deliver v stack) (deliver v stack) := by
  cases stack with
  | nil => exact ⟨fun _ _ => rfl, rfl⟩
  | cons frame stack => cases frame <;> exact ⟨fun _ _ => rfl, rfl⟩

theorem settlesTo_numeral {n : Int} (h : Numeral.Fits n) (stack : List Frame) :
    SettlesTo ⟨stack, .numeral (Numeral.ofInt n)⟩ (deliver (.ofInt n) stack) := by
  have hvalue := Numeral.value?_ofInt h
  refine ⟨?_, ?_⟩
  · intro b hb
    have hextend : (Numeral.ofInt n).extend b = .finished := by
      simp only [List.mem_cons, List.not_mem_nil, or_false] at hb
      rcases hb with rfl | rfl | rfl <;> exact Numeral.extend_ofNat _ _ rfl (by decide) rfl
    simp [settle, hextend, hvalue, Value.ofInt]
  · simp [settleAtEnd, Numeral.isComplete_ofInt, hvalue, Value.ofInt]

/-- A comma or a bracket behind a value. -/
theorem SettlesTo.take? (h : r.SettlesTo r') (hb : b ∈ [0x2c, 0x5d, 0x7d]) :
    r.take? b = r'.consume b := by
  rw [Reader.take?, h.mark b hb, Option.bind_some]

/-! ## Texts of values -/

/-- Wherever a value may stand inside the containers, the bytes are read as this one. -/
def ReadsAs (bytes : Bytes) (v : Value) (stack : List Frame) : Prop :=
  ∀ r : Reader, r.AtValue stack → ∃ r', r.Run bytes r' ∧ r'.SettlesTo (deliver v stack)

/-- A byte that opens a value. -/
theorem AtValue.cons (h : r.AtValue stack) (hblank : isBlankByte b = false) (hbracket : b ≠ 0x5d)
    (hopen : openValue stack b = some r') (hrest : r'.Run bytes r'') : r.Run (b :: bytes) r'' :=
  Run.cons ((h b hblank hbracket).trans hopen) hrest

theorem readsAs_word {rest : Bytes} (hblank : isBlankByte b = false) (hbracket : b ≠ 0x5d)
    (hopen : openValue stack b = some ⟨stack, .word rest v⟩) (hrest : rest ≠ []) :
    ReadsAs (b :: rest) v stack :=
  fun _ hr => ⟨_, hr.cons hblank hbracket hopen (run_word hrest), settlesTo_deliver v stack⟩

/-- What stands behind the opening quote of a literal. -/
theorem run_literal (role : Role) (s : String) (stack : List Frame) :
    Run ⟨stack, .text role Spelling.start⟩ (Spelling.inner s.toList ++ [0x22])
      (match role with
      | .value => deliver (.string s) stack
      | .name members => ⟨stack, .colon members s⟩) := by
  have hinner : (Spelling.inner s.toList).foldlM Spelling.more? Spelling.start =
      some ⟨(Text.encode s).reverse, .plain⟩ := by
    rw [Spelling.start, Spelling.foldlM_more?_inner, List.append_nil, Text.encode]
  refine (run_text role hinner).append (Run.cons ?_ Run.nil)
  simp only [Reader.take?, settle, consume, Option.bind_some, Spelling.extend_quote]
  cases role <;> rfl

theorem readsAs_string (s : String) (stack : List Frame) :
    ReadsAs (Text.encode (Text.Literal.write s)) (.string s) stack := by
  intro r hr
  rw [Spelling.encode_write]
  exact ⟨_, hr.cons rfl (by decide) rfl (run_literal .value s stack), settlesTo_deliver _ stack⟩

/-- The byte that opens a numeral opens no other value. -/
theorem openValue_of_start? {n : Numeral} (stack : List Frame) (h : Numeral.start? b = some n) :
    isBlankByte b = false ∧ b ≠ 0x5d ∧ openValue stack b = some ⟨stack, .numeral n⟩ := by
  have hne : ∀ c, Numeral.start? c = none → b ≠ c := by
    rintro c hc rfl
    rw [hc] at h
    cases h
  refine ⟨?_, hne 0x5d rfl, ?_⟩
  · simp [isBlankByte, hne 0x20 rfl, hne 0x09 rfl, hne 0x0a rfl, hne 0x0d rfl]
  · simp [openValue, hne 0x22 rfl, hne 0x5b rfl, hne 0x7b rfl, hne 0x74 rfl, hne 0x66 rfl,
      hne 0x6e rfl, h]

/-- The bytes of a numeral, where a value stands. -/
theorem AtValue.run_numeral {n : Numeral} (hr : r.AtValue stack)
    (hbytes : Numeral.ofBytes? bytes = some n) : r.Run bytes ⟨stack, .numeral n⟩ := by
  cases bytes with
  | nil => cases hbytes
  | cons b rest =>
    obtain ⟨first, hfirst, hrest⟩ := Option.bind_eq_some_iff.mp hbytes
    obtain ⟨hblank, hbracket, hopen⟩ := openValue_of_start? stack hfirst
    exact hr.cons hblank hbracket hopen (Reader.run_numeral hrest)

theorem readsAs_integer {n : Int} (h : Numeral.Fits n) (stack : List Frame) :
    ReadsAs (Text.encode (toString n)) (.ofInt n) stack :=
  fun _ hr => ⟨_, hr.run_numeral (Numeral.ofBytes?_toString n), settlesTo_numeral h stack⟩

/-! ## Items and members -/

/-- Parts with commas between them, each of them read where a part may stand. `At` says where a part
may stand and `Behind` where the reader is behind one; both know the parts before, last first. -/
theorem run_intercalate {α : Type} (text : α → String) (At Behind : List α → Reader → Prop)
    (hcomma : ∀ before r, Behind before r → ∃ r', r.take? 0x2c = some r' ∧ At before r')
    (part : α) (parts : List α)
    (hpart : ∀ x ∈ part :: parts, ∀ before r, At before r →
      ∃ r', r.Run (Text.encode (text x)) r' ∧ Behind (x :: before) r')
    {before : List α} (hr : At before r) :
    ∃ r', r.Run (Text.encode (",".intercalate ((part :: parts).map text))) r' ∧
      Behind ((part :: parts).reverse ++ before) r' := by
  induction parts generalizing part before r with
  | nil =>
    simpa using hpart part (List.mem_singleton_self part) before r hr
  | cons next parts ih =>
    obtain ⟨last, hlast, hbehind⟩ := hpart part List.mem_cons_self before r hr
    obtain ⟨start, hstart, hat⟩ := hcomma _ _ hbehind
    obtain ⟨r', hrest, hend⟩ := ih next (fun x hx => hpart x (List.mem_cons_of_mem _ hx)) hat
    refine ⟨r', ?_, by simpa using hend⟩
    rw [List.map_cons, List.map_cons, String.intercalate_cons_cons, Text.encode_append,
      Text.encode_append]
    rw [List.map_cons] at hrest
    exact (hlast.append (Run.cons hstart Run.nil)).append hrest

theorem writeItems_eq_map (items : List Value) : writeItems items = items.map Value.write := by
  induction items with
  | nil => rw [writeItems, List.map_nil]
  | cons item items ih => rw [writeItems, List.map_cons, ih]

/-- The text of a member. -/
def memberText (member : String × Value) : String :=
  Text.Literal.write member.1 ++ ":" ++ member.2.write

theorem writeMembers_eq_map (members : List (String × Value)) :
    writeMembers members = members.map memberText := by
  induction members with
  | nil => rw [writeMembers, List.map_nil]
  | cons member members ih => rw [writeMembers, List.map_cons, ih, memberText]

theorem encode_write_array (items : List Value) :
    Text.encode (Value.write (.array items)) =
      0x5b :: (Text.encode (",".intercalate (items.map Value.write)) ++ [0x5d]) := by
  rw [Value.write, writeItems_eq_map, Text.encode_append, Text.encode_append, List.append_assoc]
  rfl

theorem encode_write_object (members : List (String × Value)) :
    Text.encode (Value.write (.object members)) =
      0x7b :: (Text.encode (",".intercalate (members.map memberText)) ++ [0x7d]) := by
  rw [Value.write, writeMembers_eq_map, Text.encode_append, Text.encode_append, List.append_assoc]
  rfl

/-- An array is read when each of its items is, whatever stands before it in the array. -/
theorem readsAs_array {items : List Value} (hstack : stack.length < maxDepth)
    (h : ∀ item ∈ items, ∀ before,
      ReadsAs (Text.encode item.write) item (.item before :: stack)) :
    ReadsAs (Text.encode (Value.write (.array items))) (.array items) stack := by
  intro r hr
  have hopen : openValue stack 0x5b = some ⟨stack, .arrayStart⟩ := if_pos hstack
  rw [encode_write_array]
  refine ⟨_, hr.cons rfl (by decide) hopen ?_, settlesTo_deliver _ stack⟩
  cases items with
  | nil => exact Run.cons rfl Run.nil
  | cons item items =>
    have hcomma : ∀ before (r : Reader), r.SettlesTo ⟨stack, .arrayNext before⟩ →
        ∃ r', r.take? 0x2c = some r' ∧ r'.AtValue (.item before :: stack) :=
      fun before r hr => ⟨_, hr.take? (by decide), atValue_value _⟩
    obtain ⟨last, hlast, hbehind⟩ := run_intercalate Value.write
      (fun before r => r.AtValue (.item before :: stack))
      (fun before r => r.SettlesTo ⟨stack, .arrayNext before⟩) hcomma item items h
      (atValue_arrayStart stack)
    -- the last item may be a number, which ends before the bracket
    refine hlast.append (Run.cons ((hbehind.take? (by decide)).trans ?_) Run.nil)
    simp [consume, isBlankByte]

/-- The name of a member, the colon and the value. -/
theorem run_memberText {name : String} {before : List (String × Value)}
    (hr : r.AtMember before stack)
    (h : ReadsAs (Text.encode v.write) v (.member before name :: stack)) :
    ∃ r', r.Run (Text.encode (memberText (name, v))) r' ∧
      r'.SettlesTo ⟨stack, .objectNext ((name, v) :: before)⟩ := by
  obtain ⟨r', hvalue, hbehind⟩ := h ⟨.member before name :: stack, .value⟩ (atValue_value _)
  have hcolon : Run ⟨stack, .colon before name⟩ (Text.encode ":")
      ⟨.member before name :: stack, .value⟩ := Run.cons rfl Run.nil
  refine ⟨r', ?_, hbehind⟩
  rw [memberText, Text.encode_append, Text.encode_append, Spelling.encode_write]
  exact ((Run.cons hr (run_literal (.name before) name stack)).append hcolon).append hvalue

/-- An object is read when the value of each of its members is. -/
theorem readsAs_object {members : List (String × Value)} (hstack : stack.length < maxDepth)
    (h : ∀ member ∈ members, ∀ before,
      ReadsAs (Text.encode member.2.write) member.2 (.member before member.1 :: stack)) :
    ReadsAs (Text.encode (Value.write (.object members))) (.object members) stack := by
  intro r hr
  have hopen : openValue stack 0x7b = some ⟨stack, .objectStart⟩ := if_pos hstack
  rw [encode_write_object]
  refine ⟨_, hr.cons rfl (by decide) hopen ?_, settlesTo_deliver _ stack⟩
  cases members with
  | nil => exact Run.cons rfl Run.nil
  | cons member members =>
    have hcomma : ∀ before (r : Reader), r.SettlesTo ⟨stack, .objectNext before⟩ →
        ∃ r', r.take? 0x2c = some r' ∧ r'.AtMember before stack :=
      fun before r hr => ⟨_, hr.take? (by decide), atMember_objectName before stack⟩
    obtain ⟨last, hlast, hbehind⟩ := run_intercalate memberText
      (fun before r => r.AtMember before stack)
      (fun before r => r.SettlesTo ⟨stack, .objectNext before⟩) hcomma member members
      (fun x hx before r hr => run_memberText hr (h x hx before)) (atMember_objectStart stack)
    refine hlast.append (Run.cons ((hbehind.take? (by decide)).trans ?_) Run.nil)
    simp [consume, isBlankByte]

/-- The text of a value is read as the value, wherever it stands, if the containers around it leave
room for its own. -/
theorem readsAs_write {depth : Nat} (hv : v.Plain depth)
    (hstack : stack.length + depth ≤ maxDepth) : ReadsAs (Text.encode v.write) v stack := by
  -- a container adds one to the stack and takes one off the depth of what it holds
  induction hv generalizing stack with
  | null =>
    rw [Value.write]
    exact readsAs_word rfl (by decide) rfl nofun
  | boolean value =>
    cases value <;> (rw [Value.write]; exact readsAs_word rfl (by decide) rfl nofun)
  | integer h =>
    exact readsAs_integer h stack
  | string text =>
    rw [Value.write]
    exact readsAs_string text stack
  | array h ih =>
    refine readsAs_array (by omega) fun item hitem before => ih item hitem ?_
    simp only [List.length_cons]
    omega
  | object h ih =>
    refine readsAs_object (by omega) fun member hmember before => ih member hmember ?_
    simp only [List.length_cons]
    omega

end Reader

/-! ## Texts of their own -/

namespace Form

variable {r r' : Reader} {bytes : Bytes} {v : Value}

theorem advance_any_of_take? {b : UInt8} (h : r.take? b = some r') : any.advance r b = .ok r' := by
  obtain ⟨settled, hsettle, hconsume⟩ := Option.bind_eq_some_iff.mp h
  exact advance_eq_ok_iff.mpr ⟨settled, hsettle, rfl, hconsume, rfl⟩

/-- Whatever a form refuses, what it lets by is what the reader takes. -/
theorem take?_of_advance {ε α : Type} {form : Form ε α} {b : UInt8}
    (h : form.advance r b = .ok r') : r.take? b = some r' := by
  obtain ⟨settled, hsettle, -, hconsume, -⟩ := advance_eq_ok_iff.mp h
  exact Option.bind_eq_some_iff.mpr ⟨settled, hsettle, hconsume⟩

/-- Behind a complete value stand blanks alone. -/
theorem run_done {stack : List Frame} (h : Reader.Run ⟨stack, .done v⟩ bytes r') :
    r' = ⟨stack, .done v⟩ ∧ bytes.all isBlankByte = true := by
  induction bytes with
  | nil =>
    cases h
    exact ⟨rfl, rfl⟩
  | cons b bytes ih =>
    obtain ⟨next, hnext, hrest⟩ := Option.bind_eq_some_iff.mp h
    simp only [Reader.take?, Reader.settle, Reader.consume, Option.bind_some] at hnext
    split_ifs at hnext with hblank
    cases hnext
    obtain ⟨hend, hall⟩ := ih hrest
    exact ⟨hend, by rw [List.all_cons, hblank, hall]; rfl⟩

/-- A text that the reader takes to the end of a value is the text of this value. -/
theorem readFrom_any_of_run (hr : ∀ w, r.mode ≠ .done w) (h : r.Run bytes r')
    (hend : r'.settleAtEnd = some (Reader.deliver v [])) : any.readFrom r bytes = .ok v := by
  induction bytes generalizing r with
  | nil =>
    cases h
    exact close_eq_ok_iff.mpr ⟨_, v, hend, rfl, rfl, rfl⟩
  | cons b bytes ih =>
    obtain ⟨next, hnext, hrest⟩ := Option.bind_eq_some_iff.mp h
    refine readFrom_cons_eq_ok_iff.mpr ⟨next, advance_any_of_take? hnext, ?_⟩
    obtain ⟨stack, mode⟩ := next
    cases mode with
    | done w =>
      obtain ⟨rfl, hblank⟩ := run_done hrest
      cases hend
      exact .inl ⟨v, rfl, rfl, hblank⟩
    | _ => exact .inr ⟨nofun, ih nofun hrest⟩

end Form

/-- The text of a value gives the value back. -/
theorem Value.ofBytes?_write {v : Value} (hv : v.Plain Reader.maxDepth) :
    Value.ofBytes? (Text.encode v.write) = some v := by
  have hroom : ([] : List Frame).length + Reader.maxDepth ≤ Reader.maxDepth := by simp
  obtain ⟨r, hrun, hend⟩ := Reader.readsAs_write hv hroom _ (Reader.atValue_value [])
  have hread : Form.any.readFrom Reader.start (Text.encode v.write) = .ok v :=
    Form.readFrom_any_of_run nofun hrun hend.finish
  rw [Value.ofBytes?, Form.read, hread]
  rfl

end Registrar.Json

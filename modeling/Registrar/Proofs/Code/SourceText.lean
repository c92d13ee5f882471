import Registrar.Proofs.Code.File

/-!
# Generated files as source text

The compiler of Go refuses a NUL in a file and a byte order mark behind its first character. The
code around the texts of a file is written in printing ASCII characters, in lines with at most one
tab in front. A literal lets every character stand for itself that is no control, so what stands out
from the code is what stands out in the texts (`GoCode.Shows`). That keeps controls out, and lets a
byte order mark through. Main statement: `Draft.isSourceText_iff`, the compiler takes the text of a
file exactly when no text in it holds a byte order mark.
-/

namespace Registrar

open GoCode (isWord line)
open Text.Literal (write chars escape hexDigit escape_ge_space)

variable {c : Char}

/-! ## Characters that stand out -/

/-- Whether the character is none of the printing ones of ASCII. -/
def StandsOut (c : Char) : Prop :=
  c.toNat < 0x20 ∨ 0x7f ≤ c.toNat

instance (c : Char) : Decidable (StandsOut c) :=
  inferInstanceAs (Decidable (c.toNat < 0x20 ∨ 0x7f ≤ c.toNat))

theorem StandsOut.ne (h : StandsOut c) {d : Char} (hd : ¬ StandsOut d) : c ≠ d :=
  fun hcd => hd (hcd ▸ h)

/-- Whether nothing in a text stands out. -/
def isPlainCode (text : String) : Bool :=
  text.toList.all fun c => decide (¬ StandsOut c)

theorem StandsOut.not_mem (h : StandsOut c) {text : String} (htext : isPlainCode text = true) :
    c ∉ text.toList := by
  intro hmem
  exact of_decide_eq_true (List.all_eq_true.mp htext c hmem) h

theorem StandsOut.isDigit (h : StandsOut c) : c.isDigit = false := by
  rw [Char.isDigit, Bool.and_eq_false_iff, decide_eq_false_iff_not, decide_eq_false_iff_not]
  simp only [ge_iff_le, UInt32.le_iff_toNat_le]
  change ¬ 0x30 ≤ c.toNat ∨ ¬ c.toNat ≤ 0x39
  rcases h with h | h <;> omega

namespace Text.Literal

theorem eq_or_not_standsOut {d : Char} (h : c ∈ escape d) : c = d ∨ ¬ StandsOut c := by
  have hdigit : ∀ n < 16, ¬ StandsOut (hexDigit n) := by decide
  unfold escape at h
  iterate 7
    split at h
    · right
      simp only [List.mem_cons, List.not_mem_nil, or_false] at h
      rcases h with rfl | rfl <;> decide
  split at h
  · right
    simp only [List.mem_cons, List.not_mem_nil, or_false] at h
    rcases h with rfl | rfl | rfl | rfl | rfl | rfl
    · decide
    · decide
    · decide
    · decide
    · exact hdigit _ (by omega)
    · exact hdigit _ (by omega)
  · exact .inl (List.mem_singleton.mp h)

/-- A character beyond the printing ones of ASCII stands for itself. -/
theorem escape_of_le {d : Char} (h : 0x7f ≤ d.toNat) : escape d = [d] := by
  have hne : ∀ e : Char, e.toNat < 0x7f → d ≠ e := by
    rintro e he rfl
    omega
  unfold escape
  iterate 7 rw [if_neg (hne _ (by decide))]
  rw [if_neg (by omega)]

/-- What stands out in a literal stands out in its text and is no control. -/
theorem mem_write_iff (hc : StandsOut c) {s : String} :
    c ∈ (write s).toList ↔ 0x20 ≤ c.toNat ∧ c ∈ s.toList := by
  have hquote : c ≠ '"' := hc.ne (by decide)
  have hinner : c ∈ (write s).toList ↔ ∃ d ∈ s.toList, c ∈ escape d := by
    simp [chars, hquote]
  rw [hinner]
  constructor
  · rintro ⟨d, hd, hmem⟩
    obtain rfl := (eq_or_not_standsOut hmem).resolve_right (not_not_intro hc)
    exact ⟨escape_ge_space hmem, hd⟩
  · rintro ⟨hspace, hmem⟩
    refine ⟨c, hmem, ?_⟩
    rw [escape_of_le (hc.resolve_left (Nat.not_lt.mpr hspace))]
    exact List.mem_singleton_self c

end Text.Literal

/-! ## Code that shows texts -/

namespace GoCode

/-- What stands out in some code is what stands out in some texts and is no control. -/
def Shows (texts : List String) (code : List Char) : Prop :=
  ∀ c, StandsOut c → (c ∈ code ↔ 0x20 ≤ c.toNat ∧ ∃ s ∈ texts, c ∈ s.toList)

variable {texts more : List String} {code rest : List Char}

theorem Shows.append (h : Shows texts code) (hrest : Shows more rest) :
    Shows (texts ++ more) (code ++ rest) := by
  intro c hc
  rw [List.mem_append, h c hc, hrest c hc, ← and_or_left]
  simp only [List.mem_append, or_and_right, exists_or]

theorem shows_of_isPlainCode {text : String} (h : isPlainCode text = true) :
    Shows [] text.toList := by
  intro c hc
  simpa using hc.not_mem h

theorem shows_write (text : String) : Shows [text] (write text).toList := by
  intro c hc
  rw [Text.Literal.mem_write_iff hc]
  simp

/-- No control is a letter or a digit. -/
theorem isAlphanumeric_of_lt (h : c.toNat < 0x20) : Text.isAlphanumeric c = false := by
  have hcontrols : ∀ n < 0x20, Text.isAlphanumeric (Char.ofNat n) = false := by decide
  rw [← Char.ofNat_toNat c]
  exact hcontrols _ h

theorem shows_of_isWord {text : String} (h : isWord text = true) : Shows [text] text.toList := by
  intro c _
  have hcontrol : c ∈ text.toList → 0x20 ≤ c.toNat := by
    intro hmem
    by_contra hlt
    refine not_mem_of_isWord h (isAlphanumeric_of_lt (Nat.lt_of_not_le hlt)) ?_ hmem
    rintro rfl
    exact hlt (by decide)
  simpa using hcontrol

/-- A call shows what its function shows, and behind it what its arguments show. -/
theorem Shows.call {f : String} {args : List String} {argTexts : List (List String)}
    (hf : Shows texts f.toList)
    (hargs : List.Forall₂ (fun texts arg => Shows texts arg.toList) argTexts args) :
    Shows (texts ++ argTexts.flatten) (call f args).toList := by
  intro c hc
  have hopen : c ≠ '(' := hc.ne (by decide)
  have hclose : c ≠ ')' := hc.ne (by decide)
  have hmore : (∃ arg ∈ args, c ∈ arg.toList) ↔
      0x20 ≤ c.toNat ∧ ∃ s ∈ argTexts.flatten, c ∈ s.toList := by
    induction hargs with
    | nil => simp
    | cons harg _ ih =>
      rw [List.exists_mem_cons_iff, harg c hc, ih, ← and_or_left]
      simp only [List.flatten_cons, List.mem_append, or_and_right, exists_or]
  have hjoined : c ∈ (", ".intercalate args).toList ↔ ∃ arg ∈ args, c ∈ arg.toList := by
    have hcomma : c ≠ ',' := hc.ne (by decide)
    have hspace : c ≠ ' ' := hc.ne (by decide)
    cases args with
    | nil => simp
    | cons arg args =>
      rw [toList_intercalate_cons]
      simp [moreArgs, hcomma, hspace]
  rw [toList_call]
  simp only [List.mem_append, List.mem_cons, hopen, hclose, hjoined, hmore, hf c hc,
    List.not_mem_nil, or_false, false_or, ← and_or_left, or_and_right, exists_or]

end GoCode

/-- The texts that a value type holds. -/
def ValueType.texts : ValueType → List String
  | .enum values => values
  | .range _ _ | .text | .float | .bool | .complex => []

theorem ValueType.shows_code? {t : ValueType} {code : String} (h : t.code? = some code) :
    GoCode.Shows t.texts code.toList := by
  have hmaker : GoCode.Shows [] t.maker.toList :=
    GoCode.shows_of_isPlainCode (by cases t <;> simp only [maker] <;> decide)
  rw [eq_call_of_code? h]
  cases t with
  | range min max =>
    have hnumber : ∀ n : Int, GoCode.Shows [] (toString n).toList := by
      intro n c hc
      simpa using GoCode.not_mem_toString hc.isDigit (hc.ne (by decide)) n
    exact hmaker.call (.cons (hnumber _) (.cons (hnumber _) .nil))
  | enum values =>
    have hvalues : List.Forall₂ (fun texts arg => GoCode.Shows texts (String.toList arg))
        (values.map ([·])) (values.map write) := by
      rw [List.forall₂_map_left_iff, List.forall₂_map_right_iff]
      exact List.forall₂_same.mpr fun value _ => GoCode.shows_write value
    have hcall := hmaker.call hvalues
    rwa [List.nil_append, ← List.flatMap_def, List.flatMap_singleton'] at hcall
  | _ => exact hmaker.call .nil

namespace Member

/-- The texts that the type of a member holds. -/
def typeTexts : Member → List String
  | .state s => s.valueType.texts
  | .action a => a.valueType.texts
  | .config _ => []

/-- The texts that a member holds. -/
def texts (m : Member) : List String :=
  [m.target, m.name, m.description] ++ m.typeTexts

theorem shows_type? {m : Member} {type : String} (h : m.type? = some type) :
    GoCode.Shows m.typeTexts type.toList := by
  cases m with
  | state s => exact ValueType.shows_code? h
  | action a => exact ValueType.shows_code? h
  | config c =>
    obtain rfl := Option.some.inj h
    refine GoCode.shows_of_isPlainCode ?_
    cases c.valueType <;> decide

end Member

/-! ## Lines -/

namespace GoCode

/-- A line with at most one tab in front that shows some texts behind it. -/
def LineShows (texts : List String) (l : String) : Prop :=
  ∃ indent code, l.toList = indent ++ code ∧ (indent = [] ∨ indent = ['\t']) ∧ Shows texts code

theorem lineShows_of_isPlainCode {l : String} (h : isPlainCode l = true) : LineShows [] l :=
  ⟨[], l.toList, rfl, .inl rfl, shows_of_isPlainCode h⟩

theorem lineShows_tab_append {texts : List String} {code : String} (h : Shows texts code.toList) :
    LineShows texts ("\t" ++ code) :=
  ⟨['\t'], code.toList, String.toList_append, .inr rfl, h⟩

/-- The texts that a header holds beside the type of the plugin. -/
def Header.texts (h : Header) : List String :=
  [h.moduleName, h.name, h.description, h.version]

theorem lineShows_builderStatement {h : Header} (hword : isWord h.pluginType = true) :
    LineShows (h.pluginType :: h.texts) (builderStatement h) := by
  have hmaker : Shows [h.pluginType] (builderMaker h.pluginType).toList := by
    rw [toList_builderMaker]
    exact ((shows_of_isPlainCode (by decide)).append (shows_of_isWord hword)).append
      (shows_of_isPlainCode (by decide))
  have husage : Shows [] h.usage.code.toList :=
    shows_of_isPlainCode (by cases h.usage <;> decide)
  have hcall := hmaker.call (.cons (shows_write h.moduleName) (.cons (shows_write h.name)
    (.cons (shows_write h.description) (.cons husage (.cons (shows_write h.version) .nil)))))
  have hfront : Shows [] "builder := ".toList := shows_of_isPlainCode (by decide)
  rw [builderStatement, show "\tbuilder := " = "\t" ++ "builder := " from rfl, String.append_assoc]
  refine lineShows_tab_append ?_
  rw [String.toList_append]
  exact hfront.append hcall

end GoCode

theorem Member.IsAddedBy.lineShows {m : Member} {statement : String} (h : m.IsAddedBy statement) :
    GoCode.LineShows m.texts statement := by
  obtain ⟨type, htype, rfl⟩ := Option.map_eq_some_iff.mp h
  have hadder : GoCode.Shows [] m.adder.toList :=
    GoCode.shows_of_isPlainCode (by cases m <;> simp only [adder] <;> decide)
  have hcall := hadder.call (.cons (GoCode.shows_write m.target) (.cons (GoCode.shows_write m.name)
    (.cons (GoCode.shows_write m.description) (.cons (shows_type? htype) .nil))))
  have hfront : GoCode.Shows [] "builder.".toList := GoCode.shows_of_isPlainCode (by decide)
  rw [show "\tbuilder." = "\t" ++ "builder." from rfl, String.append_assoc]
  refine GoCode.lineShows_tab_append ?_
  rw [String.toList_append]
  simpa [texts] using hfront.append hcall

namespace FileContent

/-- The texts of a file that are free to be anything. -/
def freeTexts (c : FileContent) : List String :=
  c.header.texts ++ c.members.flatMap Member.texts

/-- The texts that the lines of a file show, line by line. -/
def lineTexts (c : FileContent) : List (List String) :=
  [[c.package], [], [], [], [], [], [], [], c.header.pluginType :: c.header.texts] ++
    (c.members.map Member.texts ++ [[], [], []])

theorem flatten_lineTexts (c : FileContent) :
    c.lineTexts.flatten = c.package :: c.header.pluginType :: c.freeTexts := by
  simp [lineTexts, freeTexts, List.flatMap_def]

theorem lineShows_fileLines {c : FileContent} {statements : List String}
    (hpackage : isWord c.package = true) (htype : isWord c.header.pluginType = true)
    (hstatements : List.Forall₂ Member.IsAddedBy c.members statements) :
    List.Forall₂ GoCode.LineShows c.lineTexts
      (GoCode.fileLines c.package c.header statements) := by
  have hclause : GoCode.LineShows [c.package] ("package " ++ c.package) := by
    refine ⟨[], _, (List.nil_append _).symm, .inl rfl, ?_⟩
    rw [String.toList_append]
    exact (GoCode.shows_of_isPlainCode (by decide)).append (GoCode.shows_of_isWord hpackage)
  have hplain : ∀ l : String, isPlainCode l = true → GoCode.LineShows [] l :=
    fun _ => GoCode.lineShows_of_isPlainCode
  have hindented : ∀ l code : String, l = "\t" ++ code → isPlainCode code = true →
      GoCode.LineShows [] l := by
    rintro _ code rfl hcode
    exact GoCode.lineShows_tab_append (GoCode.shows_of_isPlainCode hcode)
  have hhead : List.Forall₂ GoCode.LineShows
      [[c.package], [], [], [], [], [], [], [], c.header.pluginType :: c.header.texts]
      (GoCode.headLines c.package c.header) :=
    .cons hclause (.cons (hplain _ (by decide)) (.cons (hplain _ (by decide))
      (.cons (hindented _ ("\"" ++ GoCode.metadataImport ++ "\"") rfl (by decide))
        (.cons (hindented _ ("\"" ++ GoCode.registryImport ++ "\"") rfl (by decide))
          (.cons (hplain _ (by decide)) (.cons (hplain _ (by decide))
            (.cons (hplain _ (by decide))
              (.cons (GoCode.lineShows_builderStatement htype) .nil))))))))
  have hmembers : List.Forall₂ GoCode.LineShows (c.members.map Member.texts) statements := by
    rw [List.forall₂_map_left_iff]
    exact hstatements.imp fun _ _ h => h.lineShows
  have htail : List.Forall₂ GoCode.LineShows [[], [], []] GoCode.tailLines :=
    .cons (hindented _ "registry.RegisterPlugin(builder.Build())" rfl (by decide))
      (.cons (hplain _ (by decide)) (.cons (hplain _ (by decide)) .nil))
  exact List.rel_append hhead (List.rel_append hmembers htail)

end FileContent

/-! ## Files -/

/-- What the pieces of a text hold the text holds. -/
theorem Text.exists_mem_split_iff {mark : Char} (hc : c ≠ mark) (cs : List Char) :
    (∃ piece ∈ split mark cs, c ∈ piece) ↔ c ∈ cs := by
  induction cs with
  | nil => simp [split]
  | cons d cs ih =>
    rw [split]
    split_ifs with hd
    · subst hd
      simp [ih, hc]
    · cases hpieces : split mark cs with
      | nil => exact absurd hpieces (split_ne_nil mark cs)
      | cons piece pieces =>
        rw [hpieces, List.exists_mem_cons_iff] at ih
        rw [List.exists_mem_cons_iff, List.mem_cons, List.mem_cons, or_assoc, ih]

namespace GoCode

theorem LineShows.mem_iff {texts : List String} {l : String} (h : LineShows texts l)
    (hc : 0x7f ≤ c.toNat) : c ∈ l.toList ↔ ∃ s ∈ texts, c ∈ s.toList := by
  obtain ⟨indent, code, hl, hindent, hcode⟩ := h
  have htab : c ≠ '\t' := by
    rintro rfl
    exact absurd hc (by decide)
  have hout : c ∉ indent := by
    rcases hindent with rfl | rfl <;> simp [htab]
  have hspace : 0x20 ≤ c.toNat := Nat.le_trans (by decide) hc
  rw [hl, List.mem_append, hcode c (.inr hc)]
  simp [hout, hspace]

theorem exists_mem_line_iff {lineTexts : List (List String)} {lines : List String}
    (h : List.Forall₂ LineShows lineTexts lines) (hc : 0x7f ≤ c.toNat) :
    (∃ l ∈ lines, c ∈ l.toList) ↔ ∃ s ∈ lineTexts.flatten, c ∈ s.toList := by
  induction h with
  | nil => simp
  | cons hl _ ih =>
    rw [List.exists_mem_cons_iff, hl.mem_iff hc, ih]
    simp only [List.flatten_cons, List.mem_append, or_and_right, exists_or]

/-- No control stands in a line but a tab in front of it. -/
def Indented (l : List Char) : Prop :=
  ∃ indent code, l = indent ++ code ∧ (indent = [] ∨ indent = ['\t']) ∧ ∀ c ∈ code, 0x20 ≤ c.toNat

theorem LineShows.indented {texts : List String} {l : String} (h : LineShows texts l) :
    Indented l.toList := by
  obtain ⟨indent, code, hl, hindent, hcode⟩ := h
  refine ⟨indent, code, hl, hindent, fun c hmem => ?_⟩
  by_contra hlt
  exact hlt ((hcode c (.inl (Nat.lt_of_not_le hlt))).mp hmem).1

theorem indented_of_forall₂ {lineTexts : List (List String)} {lines : List String}
    (h : List.Forall₂ LineShows lineTexts lines) : ∀ l ∈ lines, Indented l.toList := by
  induction h with
  | nil => simp
  | cons hl _ ih => exact List.forall_mem_cons.mpr ⟨hl.indented, ih⟩

theorem Indented.nul_not_mem {l : List Char} (h : Indented l) : '\x00' ∉ l := by
  obtain ⟨indent, code, rfl, hindent, hcode⟩ := h
  have hout : '\x00' ∉ code := fun hmem => absurd (hcode _ hmem) (by decide)
  rcases hindent with rfl | rfl <;> simp [hout]

/-- What the compiler takes as source text, with no controls but the ends of its lines and a tab in
front of some. -/
structure IsSourceText (text : String) : Prop where
  nul_not_mem : '\x00' ∉ text.toList
  mark_not_mem : '\ufeff' ∉ text.toList.tail
  indented : ∀ l ∈ Text.split '\n' text.toList, Indented l

end GoCode

section Files

variable {d : Draft} {text : String} (h : d.render = .ok text) (hwords : d.NamedByWords)

include h hwords

/-- The lines of a file that words name show its texts. -/
theorem Draft.exists_lineShows :
    ∃ c statements, d.content? = some c ∧ isWord c.package = true ∧
      isWord c.header.pluginType = true ∧
        List.Forall₂ GoCode.LineShows c.lineTexts
          (GoCode.fileLines c.package c.header statements) ∧
          Text.split '\n' text.toList =
            (GoCode.fileLines c.package c.header statements).map String.toList ++ [[]] := by
  obtain ⟨c, statements, hcontent, hword, hstatements, hlines⟩ := Draft.exists_layout h hwords
  obtain ⟨plugin, -, rfl⟩ := Option.map_eq_some_iff.mp hcontent
  exact ⟨_, statements, hcontent, hwords.package, hword,
    FileContent.lineShows_fileLines hwords.package hword hstatements, hlines⟩

/-- Every line of a file is free of controls but for a tab in front. -/
theorem Draft.indented_of_mem_split :
    ∀ l ∈ Text.split '\n' text.toList, GoCode.Indented l := by
  obtain ⟨c, statements, -, -, -, hshows, hlines⟩ := Draft.exists_lineShows h hwords
  intro l hl
  rw [hlines] at hl
  rcases List.mem_append.mp hl with hl | hl
  · obtain ⟨line, hline, rfl⟩ := List.mem_map.mp hl
    exact GoCode.indented_of_forall₂ hshows line hline
  · obtain rfl := List.mem_singleton.mp hl
    exact ⟨[], [], rfl, .inl rfl, by simp⟩

theorem Draft.nul_not_mem_render : '\x00' ∉ text.toList := by
  rw [← @Text.exists_mem_split_iff _ '\n' (by decide)]
  rintro ⟨l, hl, hmem⟩
  exact (Draft.indented_of_mem_split h hwords l hl).nul_not_mem hmem

/-- Beyond ASCII a file holds what its texts hold. -/
theorem Draft.exists_mem_render_iff :
    ∃ content, d.content? = some content ∧ isWord content.package = true ∧
      isWord content.header.pluginType = true ∧
        ∀ c : Char, 0x7f ≤ c.toNat → (c ∈ text.toList ↔
          ∃ s ∈ content.package :: content.header.pluginType :: content.freeTexts,
            c ∈ s.toList) := by
  obtain ⟨content, statements, hcontent, hpackage, htype, hshows, hlines⟩ :=
    Draft.exists_lineShows h hwords
  refine ⟨content, hcontent, hpackage, htype, fun c hc => ?_⟩
  have hnewline : c ≠ '\n' := by
    rintro rfl
    exact absurd hc (by decide)
  rw [← content.flatten_lineTexts, ← GoCode.exists_mem_line_iff hshows hc,
    ← Text.exists_mem_split_iff hnewline, hlines]
  simp

end Files

/-- The package clause opens the file. -/
theorem Draft.head?_render {d : Draft} {text : String} (h : d.render = .ok text) :
    text.toList.head? = some 'p' := by
  obtain ⟨c, statements, -, -, rfl⟩ := Draft.exists_fileLines h
  simp [GoCode.fileLines, GoCode.headLines, line]

/-- The compiler takes the text of a file exactly when no text in it that is free to be anything
holds a byte order mark. Whatever the texts hold, no NUL is in the file, and no control but the ends
of its lines and a tab in front of some. -/
theorem Draft.isSourceText_iff {d : Draft} {text : String} (h : d.render = .ok text)
    (hwords : d.NamedByWords) :
    ∃ c, d.content? = some c ∧ '\x00' ∉ text.toList ∧
      (∀ l ∈ Text.split '\n' text.toList, GoCode.Indented l) ∧
        (GoCode.IsSourceText text ↔ ∀ s ∈ c.freeTexts, '\ufeff' ∉ s.toList) := by
  obtain ⟨c, hcontent, hpackage, htype, hmem⟩ := Draft.exists_mem_render_iff h hwords
  have hnul := Draft.nul_not_mem_render h hwords
  have hindented := Draft.indented_of_mem_split h hwords
  -- the clause that opens the file begins with no mark, and the words hold none
  have hmark : '\ufeff' ∈ text.toList.tail ↔ ∃ s ∈ c.freeTexts, '\ufeff' ∈ s.toList := by
    have hword : ∀ word, isWord word = true → '\ufeff' ∉ word.toList := fun word hword =>
      GoCode.not_mem_of_isWord hword (by decide +kernel) (by decide)
    obtain ⟨rest, htext⟩ := List.head?_eq_some_iff.mp (Draft.head?_render h)
    have hfile := hmem '\ufeff' (by decide)
    rw [htext] at hfile ⊢
    simpa [hword _ hpackage, hword _ htype] using hfile
  refine ⟨c, hcontent, hnul, hindented, ⟨fun hsource s hs hmem => ?_, fun hfree => ?_⟩⟩
  · exact hsource.mark_not_mem (hmark.mpr ⟨s, hs, hmem⟩)
  · refine ⟨hnul, fun hmem => ?_, hindented⟩
    obtain ⟨s, hs, hmem⟩ := hmark.mp hmem
    exact hfree s hs hmem

/-- A draft whose plugin is described behind a byte order mark. -/
def sampleMarked : Draft where
  outputPath := ⟨"/work/demo/logic/zzz_plugins_annotations_generated.go"⟩
  package := "logic"
  moduleName := "demo"
  binding := none
  plugin := some ⟨"Switch", "switch", "\ufeffOn/off switch", .logic, "1.0.0"⟩
  states := []
  actions := []
  configs := []

theorem sampleMarked_not_sourceText :
    ∃ text, sampleMarked.render = .ok text ∧ ¬ GoCode.IsSourceText text := by
  have hwords : sampleMarked.NamedByWords := ⟨by decide, fun p hp => by cases hp; decide⟩
  obtain ⟨c, hcontent, -, -, hsource⟩ := Draft.isSourceText_iff rfl hwords
  obtain rfl := Option.some.inj hcontent
  exact ⟨_, rfl, fun h => hsource.mp h "\ufeffOn/off switch" (by decide) (by decide)⟩

end Registrar

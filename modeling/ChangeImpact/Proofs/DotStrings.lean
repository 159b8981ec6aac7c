import ChangeImpact.Export.Dot

/-!
The quoted strings of a graph in the DOT language. A quote inside a text is written behind a backslash, but a backslash
is written as it is, so a text is read again as it was meant if and only if an even number of backslashes stands before
each of its quotes and at its end. Ids are written as they are and must not hold a quote at all.
-/

set_option autoImplicit false

namespace ChangeImpact.Dot

/-! ### Reading quoted strings -/

/-- What is read behind an opening quote: the text of the string, and what follows its closing quote. A backslash takes
the next character with it: a quote behind it is part of the text, and the second of two backslashes takes nothing. -/
def quoted? : List Char → Option (List Char × List Char)
  | [] => none
  | '"' :: rest => some ([], rest)
  | '\\' :: c :: rest => (quoted? rest).map (Prod.map ((if c = '"' then ['"'] else ['\\', c]) ++ ·) id)
  | c :: rest => (quoted? rest).map (Prod.map (c :: ·) id)

theorem quoted?_length {input text rest : List Char} (read : quoted? input = some (text, rest)) :
    rest.length < input.length := by
  fun_induction quoted? input generalizing text with
  | case1 => cases read
  | case2 after =>
      cases read
      exact Nat.lt_succ_self _
  | case3 c after ih =>
      obtain ⟨⟨inner, last⟩, inside, same⟩ := Option.map_eq_some_iff.mp read
      cases same
      exact Nat.lt_succ_of_lt (Nat.lt_succ_of_lt (ih inside))
  | case4 c after _ _ ih =>
      obtain ⟨⟨inner, last⟩, inside, same⟩ := Option.map_eq_some_iff.mp read
      cases same
      exact Nat.lt_succ_of_lt (ih inside)

def strings? : List Char → Option (List String)
  | [] => some []
  | c :: rest =>
      if c = '"' then
        match _read : quoted? rest with
        | none => none
        | some (text, after) => (strings? after).map (String.ofList text :: ·)
      else strings? rest
termination_by text => text.length
decreasing_by
  · exact Nat.lt_succ_of_lt (quoted?_length _read)
  · exact Nat.lt_succ_self _

theorem strings?_quote (rest : List Char) :
    strings? ('"' :: rest) =
      (quoted? rest).bind fun read => (strings? read.2).map (String.ofList read.1 :: ·) := by
  rw [strings?, if_pos rfl]
  split
  · rename_i unread
    rw [unread]
    rfl
  · rename_i read
    rw [read]
    rfl

/-- What stands outside of quotes does not count. -/
theorem strings?_append {plain : List Char} (outside : '"' ∉ plain) (rest : List Char) :
    strings? (plain ++ rest) = strings? rest := by
  induction plain with
  | nil => rfl
  | cons c plain ih =>
      have other : c ≠ '"' := (List.ne_of_not_mem_cons outside).symm
      rw [List.cons_append, strings?, if_neg other, ih (List.not_mem_of_not_mem_cons outside)]

theorem strings?_plain {plain : List Char} (outside : '"' ∉ plain) : strings? plain = some [] := by
  rw [← List.append_nil plain, strings?_append outside, strings?]

/-! ### Backslashes before quotes -/

def backslashes (text : List Char) : Nat := (text.reverse.takeWhile (· = '\\')).length

theorem backslashes_concat (text : List Char) (c : Char) :
    backslashes (text ++ [c]) = if c = '\\' then backslashes text + 1 else 0 := by
  unfold backslashes
  rw [List.reverse_append, List.reverse_singleton, List.singleton_append, List.takeWhile_cons]
  by_cases backslash : c = '\\'
  · simp [backslash]
  · simp [backslash]

/-- Before every quote of a text that follows another, and at its end, stands an even number of backslashes. -/
def PairedAfter (before text : List Char) : Prop :=
  ∀ first rest, text = first ++ rest → (∀ c ∈ rest.head?, c = '"') → backslashes (before ++ first) % 2 = 0

def Paired (text : String) : Prop := PairedAfter [] text.toList

theorem pairedAfter_nil {before : List Char} : PairedAfter before [] ↔ backslashes before % 2 = 0 := by
  constructor
  · intro paired
    simpa using paired [] [] rfl
  · intro even first rest split _
    obtain ⟨rfl, rfl⟩ := List.append_eq_nil_iff.mp split.symm
    simpa using even

theorem pairedAfter_cons {before text : List Char} {c : Char} :
    PairedAfter before (c :: text) ↔
      (c = '"' → backslashes before % 2 = 0) ∧ PairedAfter (before ++ [c]) text := by
  constructor
  · intro paired
    constructor
    · intro quote
      simpa using paired [] (c :: text) rfl (by simpa using quote)
    · intro first rest split quote
      simpa using paired (c :: first) rest (congrArg (c :: ·) split) quote
  · rintro ⟨here, later⟩ first rest split quote
    cases first with
    | nil =>
        rw [List.nil_append] at split
        subst split
        simpa using here (by simpa using quote)
    | cons d first =>
        obtain ⟨rfl, tail⟩ := List.cons.inj split
        simpa using later first rest tail quote

/-! ### Escaped texts -/

def escape (c : Char) : List Char := if c = '"' then ['\\', '"'] else [c]

theorem toList_escapeQuotes (text : String) : (Graph.escapeQuotes text).toList = text.toList.flatMap escape :=
  String.toList_ofList

theorem quoted?_backslash (c : Char) (rest : List Char) :
    quoted? ('\\' :: c :: rest) =
      (quoted? rest).map (Prod.map ((if c = '"' then ['"'] else ['\\', c]) ++ ·) id) := by
  rw [quoted?]

theorem quoted?_other {c : Char} (quote : c ≠ '"') (backslash : c ≠ '\\') (rest : List Char) :
    quoted? (c :: rest) = (quoted? rest).map (Prod.map ([c] ++ ·) id) := by
  rw [quoted?]
  · rfl
  · exact quote
  · exact fun _ _ same _ => backslash same

theorem escape_other {c : Char} (quote : c ≠ '"') : escape c = [c] := if_neg quote

/-- An induction over a text in which a backslash goes together with the character behind it. -/
theorem pairs_induction {motive : List Char → Prop} (nil : motive []) (alone : motive ['\\'])
    (pair : ∀ c rest, motive rest → motive ('\\' :: c :: rest))
    (other : ∀ c rest, c ≠ '\\' → motive rest → motive (c :: rest)) : (text : List Char) → motive text
  | [] => nil
  | [c] => by
      by_cases backslash : c = '\\'
      · exact backslash ▸ alone
      · exact other c [] backslash nil
  | c :: d :: rest => by
      by_cases backslash : c = '\\'
      · exact backslash ▸ pair d rest (pairs_induction nil alone pair other rest)
      · exact other c (d :: rest) backslash (pairs_induction nil alone pair other (d :: rest))

variable {before text rest : List Char}

theorem even_of_other {c : Char} (backslash : c ≠ '\\') : backslashes (before ++ [c]) % 2 = 0 := by
  rw [backslashes_concat, if_neg backslash]

theorem even_of_pair (even : backslashes before % 2 = 0) (c : Char) :
    backslashes (before ++ ['\\'] ++ [c]) % 2 = 0 := by
  rw [backslashes_concat, backslashes_concat, if_pos rfl]
  split <;> omega

theorem odd_of_backslash (even : backslashes before % 2 = 0) : backslashes (before ++ ['\\']) % 2 ≠ 0 := by
  rw [backslashes_concat, if_pos rfl]
  omega

/-- A text whose backslashes are paired is read as it was meant. -/
theorem quoted?_of_paired (even : backslashes before % 2 = 0) (paired : PairedAfter before text)
    (rest : List Char) : quoted? (text.flatMap escape ++ '"' :: rest) = some (text, rest) := by
  induction text using pairs_induction generalizing before with
  | nil => rfl
  | alone =>
      have last := pairedAfter_nil.mp (pairedAfter_cons.mp paired).2
      exact absurd last (odd_of_backslash even)
  | pair c text ih =>
      obtain ⟨quote, later⟩ := pairedAfter_cons.mp (pairedAfter_cons.mp paired).2
      have other : c ≠ '"' := fun same => odd_of_backslash even (quote same)
      rw [List.flatMap_cons, List.flatMap_cons, escape_other (by decide), escape_other other]
      simp [quoted?_backslash, ih (even_of_pair even c) later, other]
  | other c text backslash ih =>
      have read := ih (even_of_other backslash) (pairedAfter_cons.mp paired).2
      by_cases quote : c = '"'
      · simp [quote, escape, quoted?_backslash, read]
      · simp [escape_other quote, quoted?_other quote backslash, read]

theorem exists_inner {front value last : List Char}
    (read : (quoted? rest).map (Prod.map (front ++ ·) id) = some (value, last)) :
    ∃ inner, quoted? rest = some (inner, last) ∧ value = front ++ inner := by
  obtain ⟨⟨inner, _⟩, inside, same⟩ := Option.map_eq_some_iff.mp read
  cases same
  exact ⟨inner, inside, rfl⟩

/-- A text that is read as it was meant, or as one string up to the end of all, has paired backslashes. -/
theorem paired_of_quoted? {value last : List Char} (even : backslashes before % 2 = 0)
    (read : quoted? (text.flatMap escape ++ '"' :: rest) = some (value, last))
    (meant : value = text ∨ (rest = [] ∧ last = [])) : PairedAfter before text := by
  induction text using pairs_induction generalizing before value with
  | nil => exact pairedAfter_nil.mpr even
  | alone =>
      -- The closing quote is taken for a part of the string.
      rw [List.flatMap_singleton, escape_other (by decide), List.singleton_append, quoted?_backslash] at read
      obtain ⟨inner, inside, rfl⟩ := exists_inner read
      rcases meant with same | ⟨rfl, rfl⟩
      · simp at same
      · cases inside
  | pair c text ih =>
      rw [List.flatMap_cons, List.flatMap_cons, escape_other (by decide)] at read
      by_cases quote : c = '"'
      · -- The backslash that escapes the quote is taken for the second of a pair, and the quote ends the string.
        subst quote
        obtain ⟨inner, inside, rfl⟩ := exists_inner ((quoted?_backslash _ _).symm.trans read)
        cases inside
        simp at meant
      · rw [escape_other quote] at read
        obtain ⟨inner, inside, rfl⟩ := exists_inner ((quoted?_backslash _ _).symm.trans read)
        have later := ih (even_of_pair even c) inside (meant.imp_left fun same => by simpa [quote] using same)
        have next := pairedAfter_cons.mpr ⟨fun same => absurd same quote, later⟩
        exact pairedAfter_cons.mpr ⟨fun same => absurd same (by decide), next⟩
  | other c text backslash ih =>
      refine pairedAfter_cons.mpr ⟨fun _ => even, ?_⟩
      rw [List.flatMap_cons] at read
      by_cases quote : c = '"'
      · subst quote
        obtain ⟨inner, inside, rfl⟩ := exists_inner ((quoted?_backslash _ _).symm.trans read)
        exact ih (even_of_other backslash) inside (meant.imp_left fun same => by simpa using same)
      · rw [escape_other quote] at read
        obtain ⟨inner, inside, rfl⟩ := exists_inner ((quoted?_other quote backslash _).symm.trans read)
        exact ih (even_of_other backslash) inside (meant.imp_left fun same => by simpa using same)

/-- The whole of an escaped text between quotes is one string exactly if its backslashes are paired. -/
theorem quoted?_whole_iff (text : String) :
    (∃ value, quoted? ((Graph.escapeQuotes text).toList ++ ['"']) = some (value, [])) ↔ Paired text := by
  rw [toList_escapeQuotes]
  constructor
  · rintro ⟨value, read⟩
    exact paired_of_quoted? rfl read (Or.inr ⟨rfl, rfl⟩)
  · exact fun paired => ⟨text.toList, quoted?_of_paired rfl paired []⟩

/-! ### Texts that are written as they are -/

def Plain (text : String) : Prop := '"' ∉ text.toList ∧ Paired text

theorem escape_plain (plain : '"' ∉ text) : text.flatMap escape = text := by
  induction text with
  | nil => rfl
  | cons c text ih =>
      rw [List.flatMap_cons, ih (List.not_mem_of_not_mem_cons plain),
        escape_other (List.ne_of_not_mem_cons plain).symm, List.singleton_append]

/-- A text that is read as it is written holds no quote. -/
theorem plain_of_quoted? {last : List Char} (read : quoted? (text ++ '"' :: rest) = some (text, last)) :
    '"' ∉ text := by
  induction text using pairs_induction with
  | nil => exact List.not_mem_nil
  | alone => decide
  | pair c text ih =>
      obtain ⟨inner, inside, same⟩ := exists_inner ((quoted?_backslash _ _).symm.trans read)
      by_cases quote : c = '"'
      · simp [quote] at same
      · rw [if_neg quote] at same
        obtain rfl : text = inner := by simpa using same
        simpa [Ne.symm quote] using ih inside
  | other c text backslash ih =>
      by_cases quote : c = '"'
      · subst quote
        rw [List.cons_append, quoted?] at read
        simp at read
      · obtain ⟨inner, inside, same⟩ := exists_inner ((quoted?_other quote backslash _).symm.trans read)
        obtain rfl : text = inner := by simpa using same
        simpa [Ne.symm quote] using ih inside

/-! ### Strings one after another -/

/-- The first of the strings is the one that is meant exactly if it is escaped well enough, and it takes no more than
its own characters. -/
theorem strings?_escaped_iff {text : String} {more : List String} :
    strings? ('"' :: ((Graph.escapeQuotes text).toList ++ '"' :: rest)) = some (text :: more) ↔
      Paired text ∧ strings? rest = some more := by
  rw [strings?_quote, toList_escapeQuotes]
  constructor
  · intro read
    obtain ⟨⟨value, last⟩, inside, following⟩ := Option.bind_eq_some_iff.mp read
    obtain ⟨others, found, same⟩ := Option.map_eq_some_iff.mp following
    obtain ⟨named, rfl⟩ := List.cons.inj same
    have meant : value = text.toList := by rw [← named, String.toList_ofList]
    have paired : Paired text := paired_of_quoted? rfl inside (Or.inl meant)
    rw [quoted?_of_paired rfl paired] at inside
    cases inside
    exact ⟨paired, found⟩
  · rintro ⟨paired, found⟩
    rw [quoted?_of_paired rfl paired]
    simp [found]

theorem strings?_plain_iff {text : String} {more : List String} :
    strings? ('"' :: (text.toList ++ '"' :: rest)) = some (text :: more) ↔
      Plain text ∧ strings? rest = some more := by
  have same : '"' ∉ text.toList → (Graph.escapeQuotes text).toList = text.toList := fun plain =>
    (toList_escapeQuotes text).trans (escape_plain plain)
  constructor
  · intro read
    have plain : '"' ∉ text.toList := by
      rw [strings?_quote] at read
      obtain ⟨⟨value, last⟩, inside, following⟩ := Option.bind_eq_some_iff.mp read
      obtain ⟨others, found, listed⟩ := Option.map_eq_some_iff.mp following
      have meant : value = text.toList := by rw [← (List.cons.inj listed).1, String.toList_ofList]
      exact plain_of_quoted? (meant ▸ inside)
    rw [← same plain] at read
    obtain ⟨paired, found⟩ := strings?_escaped_iff.mp read
    exact ⟨⟨plain, paired⟩, found⟩
  · rintro ⟨⟨plain, paired⟩, found⟩
    rw [← same plain]
    exact strings?_escaped_iff.mpr ⟨paired, found⟩

/-! ### Labels -/

theorem pairedAfter_append {word : List Char} (plain : '"' ∉ word) :
    PairedAfter before (word ++ text) ↔ PairedAfter (before ++ word) text := by
  induction word generalizing before with
  | nil => rw [List.nil_append, List.append_nil]
  | cons c word ih =>
      have other : c ≠ '"' := (List.ne_of_not_mem_cons plain).symm
      rw [List.cons_append, pairedAfter_cons, ih (List.not_mem_of_not_mem_cons plain), List.append_assoc,
        List.singleton_append, and_iff_right fun same => absurd same other]

/-- Behind another character the count of backslashes begins again. -/
theorem pairedAfter_other {c : Char} (backslash : c ≠ '\\') :
    PairedAfter (before ++ [c]) text ↔ PairedAfter [] text := by
  have counts : ∀ first, backslashes (before ++ [c] ++ first) = backslashes ([] ++ first) := by
    intro first
    unfold backslashes
    rw [List.nil_append, List.append_assoc, List.reverse_append, List.singleton_append, List.reverse_cons,
      List.append_assoc]
    induction first.reverse with
    | nil => simp [backslash]
    | cons d later ih =>
        rw [List.cons_append, List.takeWhile_cons, List.takeWhile_cons]
        split
        · exact congrArg Nat.succ ih
        · rfl
  unfold PairedAfter
  simp only [counts]

/-! ### Statements -/

def labelOf (node : Node) : String := node.kind.name ++ "\\n" ++ node.name

def nodeStrings (node : Node) : List String := [node.id, labelOf node]

def edgeStrings (edge : Edge) : List String := [edge.source, edge.target, edge.kind.name]

def NodeReadable (node : Node) : Prop := Plain node.id ∧ Paired (labelOf node)

def EdgeReadable (edge : Edge) : Prop := Plain edge.source ∧ Plain edge.target ∧ Paired edge.kind.name

theorem strings?_dotNode_iff {node : Node} {more : List String} :
    strings? ((Graph.dotNode node).toList ++ rest) = some (nodeStrings node ++ more) ↔
      NodeReadable node ∧ strings? rest = some more := by
  have written : ∃ style, '"' ∉ style ∧ (Graph.dotNode node).toList ++ rest =
      "  ".toList ++ '"' :: (node.id.toList ++ '"' :: (" [label=".toList ++
        '"' :: ((Graph.escapeQuotes (labelOf node)).toList ++ '"' :: (style ++ rest)))) := by
    refine ⟨(if node.isExternal then ", style=dashed" else "").toList ++ "];".toList, ?_, ?_⟩
    · split <;> decide
    · simp [Graph.dotNode, labelOf]
  obtain ⟨style, plain, written⟩ := written
  rw [written, strings?_append (by decide), nodeStrings, List.cons_append, strings?_plain_iff,
    strings?_append (by decide), List.singleton_append, strings?_escaped_iff, strings?_append plain, ← and_assoc,
    NodeReadable]

theorem strings?_dotEdge_iff {edge : Edge} {more : List String} :
    strings? ((Graph.dotEdge edge).toList ++ rest) = some (edgeStrings edge ++ more) ↔
      EdgeReadable edge ∧ strings? rest = some more := by
  have written : (Graph.dotEdge edge).toList ++ rest =
      "  ".toList ++ '"' :: (edge.source.toList ++ '"' :: (" -> ".toList ++
        '"' :: (edge.target.toList ++ '"' :: (" [label=".toList ++
          '"' :: ((Graph.escapeQuotes edge.kind.name).toList ++ '"' :: ("];".toList ++ rest)))))) := by
    simp [Graph.dotEdge]
  rw [written, strings?_append (by decide), edgeStrings, List.cons_append, strings?_plain_iff,
    strings?_append (by decide), List.cons_append, strings?_plain_iff, strings?_append (by decide),
    List.singleton_append, strings?_escaped_iff, strings?_append (by decide), EdgeReadable, and_assoc, and_assoc]

/-! ### Whole graphs -/

theorem toList_join (between first : String) (rest : List String) :
    (Text.join between (first :: rest)).toList =
      first.toList ++ rest.flatMap fun text => between.toList ++ text.toList := by
  unfold Text.join
  induction rest generalizing first with
  | nil => simp
  | cons second rest ih => simp [ih, List.append_assoc]

/-- Statements one after the other, each on a line of its own, hold the strings that they are meant to hold exactly if
each of them does. -/
theorem strings?_lines_iff {α : Type} {write : α → String} {meant : α → List String} {readable : α → Prop}
    (each : ∀ item rest more, strings? ((write item).toList ++ rest) = some (meant item ++ more) ↔
      readable item ∧ strings? rest = some more) (items : List α) {more : List String} :
    strings? ((items.map write).flatMap (fun line => "\n".toList ++ line.toList) ++ rest) =
        some (items.flatMap meant ++ more) ↔
      (∀ item ∈ items, readable item) ∧ strings? rest = some more := by
  induction items with
  | nil => simp
  | cons item items ih =>
      rw [List.map_cons, List.flatMap_cons, List.flatMap_cons, List.append_assoc, List.append_assoc,
        List.append_assoc, strings?_append (by decide), each, ih, List.forall_mem_cons, and_assoc]

theorem strings?_toDot_iff (graph : Graph) (focus : String) :
    strings? (graph.toDot focus).toList =
        some ((graph.around focus).nodes.flatMap nodeStrings ++ (graph.around focus).edges.flatMap edgeStrings) ↔
      (∀ node ∈ (graph.around focus).nodes, NodeReadable node) ∧
        ∀ edge ∈ (graph.around focus).edges, EdgeReadable edge := by
  have written : (graph.toDot focus).toList =
      "digraph KnowledgeGraph \x7b\n  rankdir=LR;".toList ++
        (((graph.around focus).nodes.map Graph.dotNode).flatMap (fun line => "\n".toList ++ line.toList) ++
          (((graph.around focus).edges.map Graph.dotEdge).flatMap (fun line => "\n".toList ++ line.toList) ++
            "\n\x7d".toList)) := by
    unfold Graph.toDot
    dsimp only
    rw [List.append_assoc, List.append_assoc, List.cons_append, toList_join]
    simp
  have ending : strings? "\n\x7d".toList = some [] := strings?_plain (by decide)
  rw [written, strings?_append (by decide), strings?_lines_iff fun _ _ _ => strings?_dotNode_iff]
  rw [← List.append_nil (List.flatMap edgeStrings _), strings?_lines_iff fun _ _ _ => strings?_dotEdge_iff,
    and_iff_left ending]

theorem paired_labelOf {node : Node} (plain : '"' ∉ node.kind.name.toList) :
    Paired (labelOf node) ↔ Paired node.name := by
  have letters : (labelOf node).toList = (node.kind.name.toList ++ ['\\'] ++ ['n']) ++ node.name.toList := by
    simp [labelOf]
  have unquoted : '"' ∉ node.kind.name.toList ++ ['\\'] ++ ['n'] := by
    simp [plain]
  unfold Paired
  rw [letters, pairedAfter_append unquoted, List.nil_append, pairedAfter_other (by decide)]

/-- Which texts are read again as they were meant. One between quotes is a single string exactly if its backslashes are
paired. The statements of a graph, or of its part around a focus, hold the strings that they are meant to hold exactly
if this is so for their labels and their ids are plain; for a node of a known kind the label is as good as the name. -/
theorem dot_strings_iff (text : String) (graph : Graph) (focus : String) :
    ((∃ value, quoted? ((Graph.escapeQuotes text).toList ++ ['"']) = some (value, [])) ↔ Paired text) ∧
    (∀ node ∈ (graph.around focus).nodes,
      (strings? (Graph.dotNode node).toList = some (nodeStrings node) ↔ NodeReadable node) ∧
      (node.kind ∈ NodeKind.known → (NodeReadable node ↔ Plain node.id ∧ Paired node.name))) ∧
    (∀ edge ∈ (graph.around focus).edges,
      strings? (Graph.dotEdge edge).toList = some (edgeStrings edge) ↔ EdgeReadable edge) ∧
    (strings? (graph.toDot focus).toList =
        some ((graph.around focus).nodes.flatMap nodeStrings ++ (graph.around focus).edges.flatMap edgeStrings) ↔
      (∀ node ∈ (graph.around focus).nodes, NodeReadable node) ∧
        ∀ edge ∈ (graph.around focus).edges, EdgeReadable edge) := by
  have unquoted : ∀ kind ∈ NodeKind.known, '"' ∉ kind.name.toList := by decide
  refine ⟨quoted?_whole_iff text, fun node _ => ⟨?_, fun known => ?_⟩, fun edge _ => ?_, strings?_toDot_iff graph focus⟩
  · have alone := @strings?_dotNode_iff [] node []
    rwa [List.append_nil, List.append_nil, and_iff_left (strings?_plain List.not_mem_nil)] at alone
  · rw [NodeReadable, paired_labelOf (unquoted node.kind known)]
  · have alone := @strings?_dotEdge_iff [] edge []
    rwa [List.append_nil, List.append_nil, and_iff_left (strings?_plain List.not_mem_nil)] at alone

/-- A method whose name is a string with an escaped quote. -/
def quotedMethod : Node := { id := "id-1", analysis := "a", kind := .functionKind, name := "a\\\"b" }

/-- A text that ends in a backslash takes the closing quote into its string, and one with an escaped quote ends at this
quote, so that the statement of the method does not hold its label. -/
theorem dot_strings_backslash :
    quoted? ((Graph.escapeQuotes "a\\").toList ++ ['"']) = none ∧
      quoted? ((Graph.escapeQuotes "a\\\"b").toList ++ ['"']) = some (['a', '\\', '\\'], ['b', '"']) ∧
      strings? (Graph.toDot { analysis := "a", nodes := [quotedMethod], edges := [] } "").toList ≠
        some ["id-1", "function\\na\\\"b"] := by
  refine ⟨by decide, by decide, fun read => ?_⟩
  have readable := ((strings?_toDot_iff _ _).mp read).1 quotedMethod (List.mem_singleton_self _)
  have odd : backslashes ([] ++ "function\\na\\".toList) % 2 = 1 := by decide
  have even := readable.2 "function\\na\\".toList ['"', 'b'] (by decide) (by simp)
  exact absurd (even.symm.trans odd) (by decide)

end ChangeImpact.Dot

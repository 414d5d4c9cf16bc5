import ActivityMatrix.Xml
import Mathlib.Data.List.Basic

/-!
# Reading elements back

A written document tells its elements apart, with all their attributes and in order
(`readElements_write`), whether it stands on one line or on many. A reader only needs the brackets and
the quotation marks for that. Both are taken from the data before it is written, in values and in texts
alike, so each one that stands in a document is a part of its form; and what was put in place of a
character is not mistaken for anything else, because the sign that announces it is replaced, too
(`unescape_escape`).
-/

namespace ActivityMatrix.Xml

/-! ## Elements -/

/-- The tag of an element. -/
def tag : Xml → String
  | leaf tag _ _ => tag
  | branch tag _ _ => tag

/-- The tag and the attributes with which an element opens. -/
def opening : Xml → String × List (String × String)
  | leaf tag attributes _ => (tag, attributes)
  | branch tag attributes _ => (tag, attributes)

mutual

/-- An element and all elements inside it. -/
def elements : Xml → List Xml
  | leaf tag attributes text => [leaf tag attributes text]
  | branch tag attributes children => branch tag attributes children :: elementsOf children

/-- Elements and all elements inside them. -/
def elementsOf : List Xml → List Xml
  | [] => []
  | first :: rest => elements first ++ elementsOf rest

end

theorem elementsOf_append (first rest : List Xml) :
    elementsOf (first ++ rest) = elementsOf first ++ elementsOf rest := by
  induction first with
  | nil => rfl
  | cons member members ih => simp only [List.cons_append, elementsOf, ih, List.append_assoc]

theorem elementsOf_map {α : Type} (members : List α) (f : α → Xml) :
    elementsOf (members.map f) = members.flatMap fun member => (f member).elements := by
  induction members with
  | nil => rfl
  | cons member members ih => rw [List.map_cons, elementsOf, ih, List.flatMap_cons]

/-- Elements that are empty but for a text. -/
theorem elementsOf_map_of_elements {α : Type} {members : List α} {f : α → Xml}
    (h : ∀ member, (f member).elements = [f member]) :
    elementsOf (members.map f) = members.map f := by
  simp only [elementsOf_map, h]
  exact List.flatMap_pure_eq_map f members

/-! ## The reader -/

variable {tag name : String} {attributes : List (String × String)}
  {pre rest body first : List Char} {parts : List (List Char)}

/-- What follows each opening bracket of a text, up to the next closing one. -/
def brackets (text : List Char) : List (List Char) :=
  (text.splitOn '<').tail.map (·.takeWhile (· ≠ '>'))

/-- The names of references and the characters that they stand for. -/
def references : List (String × Char) :=
  [("amp", '&'), ("lt", '<'), ("gt", '>'), ("quot", '"'), ("#13", '\r'), ("#10", '\n'), ("#09", '\t')]

/-- What follows an ampersand, with the character that the name up to the semicolon stands for. -/
def resolve (part : List Char) : List Char :=
  (references.lookup (String.ofList (part.takeWhile (· ≠ ';')))).toList ++
    (part.dropWhile (· ≠ ';')).drop 1

/-- A value with the characters that its references stand for. -/
def unescape (value : List Char) : List Char :=
  (value.splitOn '&').headD [] ++ (value.splitOn '&').tail.flatMap resolve

/-- The name of an attribute, from what stands in front of its value: it follows a blank and ends with
the equals sign. -/
def readKey (part : List Char) : List Char :=
  ((part.dropWhile (· ≠ ' ')).drop 1).takeWhile (· ≠ '=')

/-- The attributes of a tag that is parted at its quotation marks: names and values take turns. -/
def readAttributes : List (List Char) → List (String × String)
  | part :: value :: rest =>
      (String.ofList (readKey part), String.ofList (unescape value)) :: readAttributes rest
  | _ => []

/-- The element that a pair of brackets opens. One that starts with a slash or a question mark opens
none. -/
def readTag (body : List Char) : Option (String × List (String × String)) :=
  if body.head? = some '/' ∨ body.head? = some '?' then none
  else some (String.ofList (body.takeWhile (· ≠ ' ')), readAttributes (body.splitOn '"'))

/-- The elements that the brackets of a text open. -/
def openedIn (text : List Char) : List (String × List (String × String)) :=
  (brackets text).filterMap readTag

/-- The elements of a document in the order in which they are opened. -/
def readElements (text : String) : List (String × List (String × String)) :=
  openedIn text.toList

/-! ## Splitting -/

/-- What holds no separator belongs to the first part. -/
theorem splitOn_append_of_notMem {a : Char} (ha : a ∉ pre) (hrest : rest.splitOn a = first :: parts) :
    (pre ++ rest).splitOn a = (pre ++ first) :: parts := by
  induction pre with
  | nil => exact hrest
  | cons c pre ih =>
      rw [List.mem_cons, not_or] at ha
      rw [List.cons_append, List.splitOn_cons_eq_if_modifyHead, if_neg (by simpa using Ne.symm ha.1),
        ih ha.2]
      rfl

theorem takeWhile_append_cons {a : Char} (ha : a ∉ pre) (rest : List Char) :
    (pre ++ a :: rest).takeWhile (· ≠ a) = pre := by
  rw [List.takeWhile_append_of_pos, List.takeWhile_cons_of_neg (by simp), List.append_nil]
  exact fun c hc => decide_eq_true fun heq : c = a => ha (heq ▸ hc)

theorem dropWhile_append_cons {a : Char} (ha : a ∉ pre) (rest : List Char) :
    (pre ++ a :: rest).dropWhile (· ≠ a) = a :: rest := by
  rw [List.dropWhile_append_of_pos, List.dropWhile_cons_of_neg (by simp)]
  exact fun c hc => decide_eq_true fun heq : c = a => ha (heq ▸ hc)

/-! ## References -/

theorem unescape_cons {c : Char} (hc : c ≠ '&') (rest : List Char) :
    unescape (c :: rest) = c :: unescape rest := by
  obtain ⟨first, parts, hsplit⟩ := List.exists_cons_of_ne_nil (List.splitOn_ne_nil '&' rest)
  rw [unescape, unescape, List.splitOn_cons_eq_if_modifyHead, if_neg (by simpa using hc), hsplit]
  rfl

theorem unescape_reference {name : List Char} (hamp : '&' ∉ name) (hend : ';' ∉ name)
    (rest : List Char) : unescape ('&' :: (name ++ ';' :: rest)) =
      (references.lookup (String.ofList name)).toList ++ unescape rest := by
  obtain ⟨first, parts, hsplit⟩ := List.exists_cons_of_ne_nil (List.splitOn_ne_nil '&' rest)
  have hparts : (name ++ ';' :: rest).splitOn '&' = (name ++ ';' :: first) :: parts := by
    have hpre : '&' ∉ name ++ [';'] := by simp [hamp]
    simpa using splitOn_append_of_notMem hpre hsplit
  have hresolve : resolve (name ++ ';' :: first) =
      (references.lookup (String.ofList name)).toList ++ first := by
    rw [resolve, takeWhile_append_cons hend, dropWhile_append_cons hend]
    rfl
  rw [unescape, unescape, List.splitOn_cons_eq_if_modifyHead, if_pos (by rfl), hparts, hsplit]
  simp [hresolve]

/-- Each character is written as itself, or else by a reference. -/
theorem attributeChar_cases (c : Char) :
    (attributeChar c = [c] ∧ c ∉ ['&', '<', '>', '"']) ∨
      ∃ name, (name, c) ∈ references ∧ attributeChar c = '&' :: (name.toList ++ [';']) := by
  unfold attributeChar
  split_ifs with hamp hlt hgt hquot hcr hlf htab
  · exact .inr ⟨"amp", by simp [references, hamp], rfl⟩
  · exact .inr ⟨"lt", by simp [references, hlt], rfl⟩
  · exact .inr ⟨"gt", by simp [references, hgt], rfl⟩
  · exact .inr ⟨"quot", by simp [references, hquot], rfl⟩
  · exact .inr ⟨"#13", by simp [references, hcr], rfl⟩
  · exact .inr ⟨"#10", by simp [references, hlf], rfl⟩
  · exact .inr ⟨"#09", by simp [references, htab], rfl⟩
  · exact .inl ⟨rfl, by simp [hamp, hlt, hgt, hquot]⟩

/-- A text holds none of some characters. -/
def Avoids (text : String) (marks : List Char) : Prop :=
  ∀ c ∈ marks, c ∉ text.toList

-- the marks are gone through one by one, not all characters that there are
instance (text : String) (marks : List Char) : Decidable (Avoids text marks) :=
  List.decidableBAll (fun c => c ∉ text.toList) marks

theorem Avoids.mono {text : String} {marks fewer : List Char} (h : Avoids text marks)
    (hsub : fewer ⊆ marks) : Avoids text fewer :=
  fun c hc => h c (hsub hc)

/-- A reference is found under its name, in which nothing needs a reference. -/
theorem references_spec : ∀ entry ∈ references, references.lookup entry.1 = some entry.2 ∧
    Avoids entry.1 ['&', '<', '>', '"', ';'] := by
  decide

/-- A value is read as it was before its characters were replaced. -/
theorem unescape_escape (cs : List Char) : unescape (cs.flatMap attributeChar) = cs := by
  induction cs with
  | nil => rfl
  | cons c rest ih =>
      rw [List.flatMap_cons]
      rcases attributeChar_cases c with ⟨heq, hc⟩ | ⟨name, hname, heq⟩
      · rw [heq, List.singleton_append, unescape_cons (fun h => hc (h ▸ .head _)), ih]
      · obtain ⟨hlookup, hplain⟩ := references_spec _ hname
        rw [heq, List.cons_append, List.append_assoc, List.singleton_append,
          unescape_reference (hplain _ (by simp)) (hplain _ (by simp)), String.ofList_toList, hlookup, ih]
        rfl

/-- No bracket and no quotation mark is left in a value. -/
theorem notMem_escape {c : Char} (hc : c ∈ ['<', '>', '"']) (cs : List Char) :
    c ∉ cs.flatMap attributeChar := by
  intro hmem
  obtain ⟨d, -, hd⟩ := List.mem_flatMap.mp hmem
  rcases attributeChar_cases d with ⟨heq, hplain⟩ | ⟨name, hname, heq⟩
  · obtain rfl := List.mem_singleton.mp (heq ▸ hd)
    exact hplain (List.mem_cons_of_mem _ hc)
  · rw [heq, List.mem_cons, List.mem_append, List.mem_singleton] at hd
    have hname' : c ∉ name.toList := (references_spec _ hname).2.mono (by decide) c hc
    rcases hd with rfl | hd | rfl
    · exact absurd hc (by decide)
    · exact hname' hd
    · exact absurd hc (by decide)

/-- No bracket is left in a text. -/
theorem notMem_text (cs : List Char) : '<' ∉ cs.flatMap textChar := by
  intro hmem
  obtain ⟨d, -, hd⟩ := List.mem_flatMap.mp hmem
  unfold textChar at hd
  split_ifs at hd with hamp hlt hgt
  · exact absurd hd (by decide)
  · exact absurd hd (by decide)
  · exact absurd hd (by decide)
  · exact hlt (List.mem_singleton.mp hd).symm

/-! ## One pair of brackets -/

theorem openedIn_append (hpre : '<' ∉ pre) (rest : List Char) :
    openedIn (pre ++ rest) = openedIn rest := by
  obtain ⟨first, parts, hsplit⟩ := List.exists_cons_of_ne_nil (List.splitOn_ne_nil '<' rest)
  rw [openedIn, openedIn, brackets, brackets, splitOn_append_of_notMem hpre hsplit, hsplit]
  rfl

theorem openedIn_bracket (hopen : '<' ∉ body) (hclose : '>' ∉ body) (rest : List Char) :
    openedIn ('<' :: (body ++ '>' :: rest)) = (readTag body).toList ++ openedIn rest := by
  obtain ⟨first, parts, hsplit⟩ := List.exists_cons_of_ne_nil (List.splitOn_ne_nil '<' rest)
  have hparts : (body ++ '>' :: rest).splitOn '<' = (body ++ '>' :: first) :: parts := by
    have hpre : '<' ∉ body ++ ['>'] := by simp [hopen]
    simpa using splitOn_append_of_notMem hpre hsplit
  rw [openedIn, openedIn, brackets, brackets, List.splitOn_cons_eq_if_modifyHead, if_pos (by rfl),
    hparts, hsplit, List.tail_cons, List.map_cons, takeWhile_append_cons hclose, List.filterMap_cons]
  cases readTag body <;> rfl

theorem notMem_of_bracket {c : Char} {text : List Char} (hc : c ∈ ['<', '>'])
    (htext : '<' ∉ text ∧ '>' ∉ text) : c ∉ text := by
  rcases List.mem_pair.mp hc with rfl | rfl
  · exact htext.1
  · exact htext.2

/-- A name that holds nothing of the form of a document. -/
def IsPlain (name : String) : Prop :=
  Avoids name [' ', '<', '>', '"', '=', '/', '?']

instance (name : String) : Decidable (IsPlain name) :=
  inferInstanceAs (Decidable (Avoids name _))

theorem IsPlain.notMem_of_bracket (h : IsPlain name) {c : Char} (hc : c ∈ ['<', '>']) :
    c ∉ name.toList :=
  Avoids.mono h (by decide) c hc

/-- The written form of some attributes. -/
def attributeChars (attributes : List (String × String)) : List Char :=
  attributes.flatMap fun entry =>
    ' ' :: (entry.1.toList ++ '=' :: '"' :: (entry.2.toList.flatMap attributeChar ++ ['"']))

theorem toList_writeHead (tag : String) (attributes : List (String × String)) :
    (writeHead tag attributes).toList = tag.toList ++ attributeChars attributes := by
  simp [writeHead, attributeChars, writeAttribute, String.toList_join, List.flatMap_map]

theorem notMem_attributeChars {c : Char} (hc : c ∈ ['<', '>'])
    (hkeys : ∀ entry ∈ attributes, IsPlain entry.1) : c ∉ attributeChars attributes := by
  intro hmem
  obtain ⟨entry, hentry, hc'⟩ := List.mem_flatMap.mp hmem
  have hkey := (hkeys entry hentry).notMem_of_bracket hc
  have hvalue : c ∉ entry.2.toList.flatMap attributeChar :=
    notMem_escape (List.mem_append_left ['"'] hc) _
  have hsigns : c ∉ [' ', '=', '"'] := notMem_of_bracket hc (by decide)
  simp_all

theorem readKey_append {key : String} (hpre : ' ' ∉ pre) (hkey : IsPlain key) :
    readKey (pre ++ ' ' :: (key.toList ++ ['='])) = key.toList := by
  rw [readKey, dropWhile_append_cons hpre, List.drop_one, List.tail_cons,
    takeWhile_append_cons (hkey '=' (by simp))]

/-- The attributes of a tag are read off its quotation marks, whatever stands around them. -/
theorem readAttributes_written {post : List Char} (hkeys : ∀ entry ∈ attributes, IsPlain entry.1)
    (hblank : ' ' ∉ pre) (hpre : '"' ∉ pre) (hpost : '"' ∉ post) :
    readAttributes ((pre ++ (attributeChars attributes ++ post)).splitOn '"') = attributes := by
  induction attributes generalizing pre with
  | nil =>
      have hall : '"' ∉ pre ++ (attributeChars [] ++ post) := by simp [attributeChars, hpre, hpost]
      rw [List.splitOn_eq_singleton hall, readAttributes]
      simp
  | cons entry more ih =>
      have hkey := hkeys entry List.mem_cons_self
      have hpart : '"' ∉ pre ++ ' ' :: (entry.1.toList ++ ['=']) := by
        simp [hpre, hkey '"' (by simp)]
      have hvalue : '"' ∉ entry.2.toList.flatMap attributeChar := notMem_escape (by simp) _
      have hshape : pre ++ (attributeChars (entry :: more) ++ post) =
          pre ++ ' ' :: (entry.1.toList ++ ['=']) ++
            '"' :: (entry.2.toList.flatMap attributeChar ++
              '"' :: ([] ++ (attributeChars more ++ post))) := by
        simp [attributeChars]
      rw [hshape, List.splitOn_append_cons_self_of_not_mem hpart,
        List.splitOn_append_cons_self_of_not_mem hvalue, readAttributes, readKey_append hblank hkey,
        unescape_escape, ih (fun a ha => hkeys a (List.mem_cons_of_mem _ ha)) (by simp) (by simp)]
      simp

/-- After the tag stands a blank or nothing. -/
theorem attributeChars_append_cases (attributes : List (String × String)) {post : List Char}
    (hpost : post = [] ∨ post = [' ', '/']) :
    attributeChars attributes ++ post = [] ∨
      ∃ after, attributeChars attributes ++ post = ' ' :: after := by
  cases attributes with
  | nil => exact hpost.imp id fun hpost => ⟨['/'], hpost⟩
  | cons entry more => exact .inr ⟨_, rfl⟩

/-- The element that a tag opens is read off the tag, closed at once or not. -/
theorem readTag_written {post : List Char} (htag : IsPlain tag)
    (hkeys : ∀ entry ∈ attributes, IsPlain entry.1) (hpost : post = [] ∨ post = [' ', '/']) :
    readTag (tag.toList ++ (attributeChars attributes ++ post)) = some (tag, attributes) := by
  have hquote : '"' ∉ post := by rcases hpost with rfl | rfl <;> decide
  have hattributes := readAttributes_written hkeys (htag ' ' (by simp)) (htag '"' (by simp)) hquote
  have hname : (tag.toList ++ (attributeChars attributes ++ post)).takeWhile (· ≠ ' ') = tag.toList := by
    rcases attributeChars_append_cases attributes hpost with heq | ⟨after, heq⟩
    · rw [heq, List.takeWhile_append_of_pos, List.takeWhile_nil, List.append_nil]
      exact fun c hc => decide_eq_true fun h : c = ' ' => htag ' ' (by simp) (h ▸ hc)
    · rw [heq, takeWhile_append_cons (htag ' ' (by simp))]
  -- neither a closing tag nor a declaration, whose first characters stand in no name
  have hfirst : ∀ c ∈ ['/', '?'], (tag.toList ++ (attributeChars attributes ++ post)).head? ≠ some c := by
    intro c hc hhead
    have hplain : c ∉ tag.toList := Avoids.mono htag (by decide) c hc
    cases hchars : tag.toList with
    | cons d more =>
        rw [hchars, List.cons_append, List.head?_cons, Option.some.injEq] at hhead
        exact hplain (hchars ▸ hhead ▸ .head _)
    | nil =>
        rw [hchars, List.nil_append] at hhead
        rcases attributeChars_append_cases attributes hpost with heq | ⟨after, heq⟩ <;> rw [heq] at hhead
        · cases hhead
        · obtain rfl : ' ' = c := Option.some.inj hhead
          exact absurd hc (by decide)
  rw [readTag, if_neg (not_or.mpr ⟨hfirst '/' (by simp), hfirst '?' (by simp)⟩), hname, hattributes,
    String.ofList_toList]

/-! ## Trees -/

/-- A tree all of whose tags and names of attributes are plain. -/
def IsReadable (x : Xml) : Prop :=
  ∀ element ∈ x.elements, IsPlain element.opening.1 ∧ ∀ entry ∈ element.opening.2, IsPlain entry.1

theorem IsReadable.of_leaf {text : String} (h : (leaf tag attributes text).IsReadable) :
    IsPlain tag ∧ ∀ entry ∈ attributes, IsPlain entry.1 :=
  h _ List.mem_cons_self

theorem IsReadable.of_branch {children : List Xml} (h : (branch tag attributes children).IsReadable) :
    IsPlain tag ∧ ∀ entry ∈ attributes, IsPlain entry.1 :=
  h _ List.mem_cons_self

theorem IsReadable.of_mem {children : List Xml} {child : Xml}
    (h : (branch tag attributes children).IsReadable) (hchild : child ∈ children) : child.IsReadable := by
  intro element helement
  refine h element (List.mem_cons_of_mem _ ?_)
  rw [← List.map_id children, elementsOf_map]
  exact List.mem_flatMap.mpr ⟨child, hchild, helement⟩

/-- Opening a tag opens its element. -/
theorem openedIn_tag {post : List Char} (htag : IsPlain tag)
    (hkeys : ∀ entry ∈ attributes, IsPlain entry.1) (hpost : post = [] ∨ post = [' ', '/'])
    (rest : List Char) :
    openedIn ('<' :: (tag.toList ++ (attributeChars attributes ++ post) ++ '>' :: rest)) =
      (tag, attributes) :: openedIn rest := by
  have hnot : ∀ c ∈ ['<', '>'], c ∉ tag.toList ++ (attributeChars attributes ++ post) := by
    intro c hc
    have hplain := htag.notMem_of_bracket hc
    have hpost' : c ∉ post := by
      rcases hpost with rfl | rfl
      · exact List.not_mem_nil
      · exact notMem_of_bracket hc (by decide)
    simp [hplain, notMem_attributeChars hc hkeys, hpost']
  rw [openedIn_bracket (hnot '<' (by simp)) (hnot '>' (by simp)), readTag_written htag hkeys hpost]
  rfl

/-- Closing a tag opens no element. -/
theorem openedIn_closing (htag : IsPlain tag) (rest : List Char) :
    openedIn ('<' :: '/' :: (tag.toList ++ '>' :: rest)) = openedIn rest := by
  have hnot : ∀ c ∈ ['<', '>'], c ∉ '/' :: tag.toList := by
    intro c hc
    have hplain := htag.notMem_of_bracket hc
    have hslash : c ∉ ['/'] := notMem_of_bracket hc (by decide)
    simp_all
  have hbracket := openedIn_bracket (hnot '<' (by simp)) (hnot '>' (by simp)) rest
  rwa [readTag, if_pos (.inl rfl)] at hbracket

theorem notMem_lineBreak (pretty : Bool) (depth : Nat) : '<' ∉ (lineBreak pretty depth).toList := by
  cases pretty <;> simp [lineBreak]

mutual

/-- A written tree opens its elements, wherever it stands. -/
theorem openedIn_writeAt (pretty : Bool) (depth : Nat) (rest : List Char) :
    ∀ x : Xml, x.IsReadable →
      openedIn ((writeAt pretty depth x).toList ++ rest) = x.elements.map opening ++ openedIn rest
  | .leaf tag attributes text, hx => by
      obtain ⟨htag, hkeys⟩ := hx.of_leaf
      rw [writeAt]
      split
      · have hopened := openedIn_tag htag hkeys (.inr rfl) rest
        simpa [toList_writeHead, elements, opening] using hopened
      · have hopened := openedIn_tag htag hkeys (.inl rfl)
          (text.toList.flatMap textChar ++ '<' :: '/' :: (tag.toList ++ '>' :: rest))
        rw [openedIn_append (notMem_text _), openedIn_closing htag] at hopened
        simpa [toList_writeHead, elements, opening] using hopened
  | .branch tag attributes [], hx => by
      obtain ⟨htag, hkeys⟩ := hx.of_branch
      have hopened := openedIn_tag htag hkeys (.inr rfl) rest
      rw [writeAt]
      simpa [toList_writeHead, elements, elementsOf, opening] using hopened
  | .branch tag attributes (child :: others), hx => by
      obtain ⟨htag, hkeys⟩ := hx.of_branch
      have hopened := openedIn_tag htag hkeys (.inl rfl)
        ((writeChildren pretty (depth + 1) (child :: others)).toList ++
          ((lineBreak pretty depth).toList ++ '<' :: '/' :: (tag.toList ++ '>' :: rest)))
      rw [openedIn_writeChildren pretty (depth + 1) _ (child :: others) fun _ => hx.of_mem,
        openedIn_append (notMem_lineBreak pretty depth), openedIn_closing htag] at hopened
      rw [writeAt]
      simpa [toList_writeHead, elements, opening] using hopened

theorem openedIn_writeChildren (pretty : Bool) (depth : Nat) (rest : List Char) :
    ∀ children : List Xml, (∀ x ∈ children, x.IsReadable) →
      openedIn ((writeChildren pretty depth children).toList ++ rest) =
        (elementsOf children).map opening ++ openedIn rest
  | [], _ => by simp [writeChildren, elementsOf]
  | child :: others, hall => by
      rw [writeChildren, String.toList_append, String.toList_append, List.append_assoc, List.append_assoc,
        openedIn_append (notMem_lineBreak pretty depth),
        openedIn_writeAt pretty depth _ child (hall child List.mem_cons_self),
        openedIn_writeChildren pretty depth rest others fun x hx => hall x (List.mem_cons_of_mem _ hx),
        elementsOf, List.map_append, List.append_assoc]

end

/-- The line that opens a document opens no element. -/
theorem openedIn_declaration (rest : List Char) :
    openedIn (declaration.toList ++ rest) = openedIn rest := by
  let body := "?xml version=\"1.0\" encoding=\"UTF-8\"?".toList
  have hbracket : openedIn ('<' :: (body ++ '>' :: rest)) = _ :=
    openedIn_bracket (by decide) (by decide) rest
  rwa [readTag, if_pos (.inr rfl)] at hbracket

/-- **The elements of a document can be read back**, whether it is written on one line or on many. -/
theorem readElements_write (pretty : Bool) {x : Xml} (hx : x.IsReadable) :
    readElements (write pretty x) = x.elements.map opening := by
  have hopened := openedIn_writeAt pretty 0 ['\n'] x hx
  have hbreak : openedIn ['\n'] = [] := rfl
  rw [hbreak, List.append_nil] at hopened
  rw [readElements, write, String.toList_append, String.toList_append, String.toList_append,
    List.append_assoc, List.append_assoc, openedIn_declaration, openedIn_append (by decide)]
  exact hopened

end ActivityMatrix.Xml

import PluginWrapper.Text.Split

/-! The tokens of Java text that has names, separators, string literals and blanks only, read
character by character. Everything else, a comment, a number or a text block, is refused. -/
namespace PluginWrapper.Java

inductive Token where
  | name (text : String)
  | mark (c : Char)
  | literal (text : String)
  deriving DecidableEq

def Token.literal? : Token → Option String
  | .literal text => some text
  | _ => none

def isBlank (c : Char) : Bool :=
  [' ', '\t', '\x0c', '\n', '\r'].contains c

def isNameStart (c : Char) : Bool :=
  c.isAlpha || c = '_' || c = '$'

def isNamePart (c : Char) : Bool :=
  isNameStart c || c.isDigit

def isMark (c : Char) : Bool :=
  ['(', ')', '{', '}', '[', ']', ';', ',', '.', '@', '='].contains c

def isEscape (c : Char) : Bool :=
  "bstnfr\"'\\01234567".toList.contains c

def isName : List Char → Bool
  | [] => false
  | c :: rest => isNameStart c && rest.all isNamePart

/-- What has been read of a token that is not complete. A literal after its second quote is still
open, since a third one would begin a text block. -/
inductive Mode where
  | between
  | word (soFar : List Char)
  | literal (soFar : List Char)
  | escape (soFar : List Char)
  | closed (text : List Char)
  deriving DecidableEq

def start (c : Char) : Option (List Token × Mode) :=
  if isBlank c then some ([], .between)
  else if isNameStart c then some ([], .word [c])
  else if isMark c then some ([.mark c], .between)
  else if c = '"' then some ([], .literal [])
  else none

/-- The token is complete and the character begins something new. -/
def finishThenStart (t : Token) (c : Char) : Option (List Token × Mode) :=
  (start c).map fun (ts, m) => (t :: ts, m)

/-- Reads one character: the tokens that it completes, and what stays open. -/
def read : Mode → Char → Option (List Token × Mode)
  | .between, c => start c
  | .word w, c =>
    if isNamePart c then some ([], .word (w ++ [c]))
    else finishThenStart (.name (String.ofList w)) c
  | .literal v, c =>
    if c = '"' then some ([], .closed v)
    else if c = '\\' then some ([], .escape v)
    else if c = '\n' ∨ c = '\r' then none
    else some ([], .literal (v ++ [c]))
  | .escape v, c => if isEscape c then some ([], .literal (v ++ ['\\', c])) else none
  | .closed v, c =>
    if c = '"' ∧ v = [] then none
    else finishThenStart (.literal (String.ofList v)) c

def readAll : Mode → List Char → Option (List Token × Mode)
  | m, [] => some ([], m)
  | m, c :: rest => do
    let (ts, m) ← read m c
    let (us, m) ← readAll m rest
    some (ts ++ us, m)

def finish : Mode → Option (List Token)
  | .between => some []
  | .word w => some [.name (String.ofList w)]
  | .closed v => some [.literal (String.ofList v)]
  | .literal _ => none
  | .escape _ => none

def lex (s : String) : Option (List Token) := do
  let (ts, m) ← readAll .between s.toList
  let us ← finish m
  some (ts ++ us)

/-- From the first mode the text gives the tokens and leads to the second mode. -/
def Reads (m : Mode) (s : String) (ts : List Token) (m' : Mode) : Prop :=
  readAll m s.toList = some (ts, m')

instance (m : Mode) (s : String) (ts : List Token) (m' : Mode) : Decidable (Reads m s ts m') :=
  inferInstanceAs (Decidable (_ = _))

theorem readAll_append {m m₁ m₂ : Mode} {a b : List Char} {ts us : List Token}
    (ha : readAll m a = some (ts, m₁)) (hb : readAll m₁ b = some (us, m₂)) :
    readAll m (a ++ b) = some (ts ++ us, m₂) := by
  induction a generalizing m ts with
  | nil =>
    obtain ⟨rfl, rfl⟩ : [] = ts ∧ m = m₁ := by simpa [readAll] using ha
    exact hb
  | cons c a ih =>
    simp only [readAll, bind, Option.bind_eq_some_iff, List.cons_append] at ha ⊢
    obtain ⟨⟨first, m₀⟩, hc, ⟨rest, m'⟩, hrest, heq⟩ := ha
    obtain ⟨rfl, rfl⟩ : first ++ rest = ts ∧ m' = m₁ := by simpa using heq
    exact ⟨(first, m₀), hc, (rest ++ us, m₂), ih hrest, by simp⟩

theorem Reads.append {m m₁ m₂ : Mode} {a b : String} {ts us : List Token}
    (ha : Reads m a ts m₁) (hb : Reads m₁ b us m₂) : Reads m (a ++ b) (ts ++ us) m₂ := by
  rw [Reads, String.toList_append]
  exact readAll_append ha hb

theorem Reads.lex {s : String} {ts : List Token} (h : Reads .between s ts .between) :
    lex s = some ts := by
  rw [Java.lex, h]
  simp [finish]

def IsPlain (s : String) : Prop :=
  ∀ c ∈ s.toList, c ≠ '"' ∧ c ≠ '\\' ∧ c ≠ '\r' ∧ c ≠ '\n'

instance (s : String) : Decidable (IsPlain s) :=
  List.decidableBAll (fun c => c ≠ '"' ∧ c ≠ '\\' ∧ c ≠ '\r' ∧ c ≠ '\n') s.toList

private theorem readAll_plain (v : List Char)
    (hv : ∀ c ∈ v, c ≠ '"' ∧ c ≠ '\\' ∧ c ≠ '\r' ∧ c ≠ '\n') (soFar : List Char) :
    readAll (.literal soFar) v = some ([], .literal (soFar ++ v)) := by
  induction v generalizing soFar with
  | nil => simp [readAll]
  | cons c v ih =>
    obtain ⟨hquote, hescape, hreturn, hline⟩ := hv c (by simp)
    have hc : read (.literal soFar) c = some ([], .literal (soFar ++ [c])) := by
      simp [read, hquote, hescape, hreturn, hline]
    rw [readAll, hc]
    simp [ih (fun x hx => hv x (List.mem_cons_of_mem c hx))]

/-- A plain value stands in a literal as it is. -/
private theorem reads_value {v : String} (hv : IsPlain v) :
    Reads (.literal []) v [] (.literal v.toList) :=
  readAll_plain v.toList hv []

private theorem readAll_parts (w : List Char) (hw : ∀ c ∈ w, isNamePart c) (soFar : List Char) :
    readAll (.word soFar) w = some ([], .word (soFar ++ w)) := by
  induction w generalizing soFar with
  | nil => simp [readAll]
  | cons c w ih =>
    have hc : read (.word soFar) c = some ([], .word (soFar ++ [c])) := by
      simp [read, hw c (by simp)]
    rw [readAll, hc]
    simp [ih (fun x hx => hw x (List.mem_cons_of_mem c hx))]

private theorem isBlank_of_isNameStart {c : Char} (h : isNameStart c) : isBlank c = false := by
  cases hb : isBlank c with
  | false => rfl
  | true =>
    have hc : c ∈ [' ', '\t', '\x0c', '\n', '\r'] := by simpa [isBlank] using hb
    have hnone : [' ', '\t', '\x0c', '\n', '\r'].all fun x => !isNameStart x := by decide
    simpa [h] using List.all_eq_true.mp hnone c hc

private theorem reads_name {w : String} (hw : isName w.toList) :
    Reads .between w [] (.word w.toList) := by
  rw [Reads]
  cases hl : w.toList with
  | nil => simp [hl, isName] at hw
  | cons c rest =>
    simp only [hl, isName, Bool.and_eq_true, List.all_eq_true] at hw
    have hc : read .between c = some ([], .word [c]) := by
      simp [read, start, isBlank_of_isNameStart hw.1, hw.1]
    rw [readAll, hc]
    simp [readAll_parts rest hw.2]

def endsName (s : String) (ts : List Token) (m : Mode) : Bool :=
  match s.toList with
  | [] => false
  | c :: rest => !isNamePart c && readAll .between (c :: rest) = some (ts, m)

def endsLiteral (s : String) (ts : List Token) (m : Mode) : Bool :=
  match s.toList with
  | '"' :: c :: rest => c ≠ '"' && readAll .between (c :: rest) = some (ts, m)
  | _ => false

private theorem readAll_finishThenStart {m : Mode} {t : Token} {c : Char} {rest : List Char}
    {ts : List Token} {m' : Mode} (hread : read m c = finishThenStart t c)
    (h : readAll .between (c :: rest) = some (ts, m')) :
    readAll m (c :: rest) = some (t :: ts, m') := by
  simp only [readAll, read, bind, Option.bind_eq_some_iff] at h
  obtain ⟨⟨us, m₁⟩, hstart, ⟨vs, m₂⟩, hrest, heq⟩ := h
  obtain ⟨rfl, rfl⟩ : us ++ vs = ts ∧ m₂ = m' := by simpa using heq
  simp [readAll, hread, finishThenStart, hstart, hrest]

private theorem reads_endsName {b : String} {ts : List Token} {m : Mode} (h : endsName b ts m)
    (w : List Char) : Reads (.word w) b (.name (String.ofList w) :: ts) m := by
  rw [Reads]
  rw [endsName] at h
  cases hb : b.toList with
  | nil => simp [hb] at h
  | cons c rest =>
    simp only [hb, Bool.and_eq_true, Bool.not_eq_true', decide_eq_true_eq] at h
    exact readAll_finishThenStart (by simp [read, h.1]) h.2

private theorem reads_endsLiteral {b : String} {ts : List Token} {m : Mode} (h : endsLiteral b ts m)
    (v : List Char) : Reads (.literal v) b (.literal (String.ofList v) :: ts) m := by
  rw [Reads]
  rw [endsLiteral] at h
  split at h
  · rename_i c rest hb
    simp only [Bool.and_eq_true, decide_eq_true_eq] at h
    have hclosed : readAll (.closed v) (c :: rest) = some (.literal (String.ofList v) :: ts, m) :=
      readAll_finishThenStart (by simp [read, h.1]) h.2
    rw [hb, readAll]
    simp [read, hclosed]
  · simp at h

/-- The text ends in a name, and gives these tokens when that name goes no further. -/
def Opens (s : String) (ts : List Token) : Prop :=
  ∃ us w, Reads .between s us (.word w) ∧ ts = us ++ [.name (String.ofList w)]

theorem opens_name {w : String} (hw : isName w.toList) : Opens w [.name w] :=
  ⟨[], w.toList, reads_name hw, by simp⟩

theorem Reads.opens {a b : String} {ts us : List Token} (ha : Reads .between a ts .between)
    (hb : Opens b us) : Opens (a ++ b) (ts ++ us) := by
  obtain ⟨vs, w, hread, rfl⟩ := hb
  exact ⟨ts ++ vs, w, ha.append hread, by simp⟩

theorem Opens.append {a b : String} {ts us : List Token} {m : Mode} (ha : Opens a ts)
    (hb : endsName b us m) : Reads .between (a ++ b) (ts ++ us) m := by
  obtain ⟨vs, w, hread, rfl⟩ := ha
  simpa using hread.append (reads_endsName hb w)

theorem Opens.dot {a b : String} {ts us : List Token} (ha : Opens a ts) (hb : Opens b us) :
    Opens (a ++ "." ++ b) (ts ++ .mark '.' :: us) := by
  have hdot : Reads .between (a ++ ".") (ts ++ [.mark '.']) .between := ha.append rfl
  simpa using hdot.opens hb

/-- A plain value between two quotes is one token. -/
theorem Reads.value {a v b : String} {ts us : List Token} {m : Mode}
    (ha : Reads .between a ts (.literal [])) (hv : IsPlain v) (hb : endsLiteral b us m) :
    Reads .between (a ++ v ++ b) (ts ++ .literal v :: us) m := by
  simpa using (ha.append (reads_value hv)).append (reads_endsLiteral hb v.toList)

end PluginWrapper.Java

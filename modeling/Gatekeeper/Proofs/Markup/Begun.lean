import Gatekeeper.Markup.Opening
import Gatekeeper.Proofs.Markup.Split

/-! The openings of documents that are cut off. The first bytes show the same charset in the front of a document as in
all of it, and its declaration says the same if it is there in full; if it is not, there is nothing in the front that
could be the end of a tag. -/

namespace Gatekeeper.Markup

variable {charset : Charset} {bytes front back rest : List UInt8}

theorem sniff_pair (a b : UInt8) (more : List UInt8) :
    sniff (a :: b :: more) =
      if a = 0xFE ∧ b = 0xFF then some (.utf16 true, more)
      else if a = 0xFF ∧ b = 0xFE then some (.utf16 false, more)
      else if a = 0xEF ∧ b = 0xBB ∧ more.head? = some 0xBF then some (.utf8, more.tail)
      else if a = 0x00 then some (.utf16 true, a :: b :: more)
      else if b = 0x00 then some (.utf16 false, a :: b :: more)
      else some (.utf8, a :: b :: more) := by
  rw [sniff.eq_def]
  split
  case h_6 a b rest hbig hlittle hmark hfirst hsecond heq =>
    cases heq
    rw [if_neg fun h => hbig h.1 h.2, if_neg fun h => hlittle h.1 h.2, if_neg, if_neg hfirst, if_neg hsecond]
    rintro ⟨ha, hb, hhead⟩
    obtain ⟨more, hmore⟩ := List.head?_eq_some_iff.mp hhead
    exact hmark more ha hb hmore
  all_goals simp_all

theorem sniff_append (h : sniff (front ++ back) = some (charset, rest)) :
    sniff front = none ∨ front = [0xEF, 0xBB] ∨
      ∃ body, sniff front = some (charset, body) ∧ rest = body ++ back := by
  rcases front with _ | ⟨a, _ | ⟨b, more⟩⟩
  · exact .inl rfl
  · refine .inl ?_
    rw [sniff.eq_def]
    split
    all_goals simp_all
  by_cases hmark : a = 0xEF ∧ b = 0xBB ∧ more = []
  · obtain ⟨rfl, rfl, rfl⟩ := hmark
    exact .inr (.inl rfl)
  · -- The third byte of a mark is in the front whenever the first two are.
    have hhead : (a = 0xEF ∧ b = 0xBB ∧ (more ++ back).head? = some 0xBF) ↔
        (a = 0xEF ∧ b = 0xBB ∧ more.head? = some 0xBF) := by
      cases more with
      | nil => simp_all
      | cons c more => rfl
    rw [List.cons_append, List.cons_append, sniff_pair] at h
    rw [sniff_pair]
    simp only [hhead] at h
    split_ifs at h ⊢ with hbig hlittle hthird
    · cases h
      exact .inr (.inr ⟨_, rfl, rfl⟩)
    · cases h
      exact .inr (.inr ⟨_, rfl, rfl⟩)
    · cases h
      obtain ⟨later, rfl⟩ := List.head?_eq_some_iff.mp hthird.2.2
      exact .inr (.inr ⟨_, rfl, rfl⟩)
    all_goals
      cases h
      exact .inr (.inr ⟨_, rfl, rfl⟩)

theorem suffix_of_sniff (h : sniff bytes = some (charset, rest)) : rest <:+ bytes := by
  rw [sniff.eq_def] at h
  split at h
  all_goals cases h
  case h_1 => exact (List.suffix_cons _ _).trans (List.suffix_cons _ _)
  case h_2 => exact (List.suffix_cons _ _).trans (List.suffix_cons _ _)
  case h_3 => exact ((List.suffix_cons _ _).trans (List.suffix_cons _ _)).trans (List.suffix_cons _ _)
  all_goals exact List.suffix_rfl

/-- The first bytes show no charset but those in which a letter of a declaration takes one byte or two. -/
theorem charset_of_sniff (h : sniff bytes = some (charset, rest)) :
    charset = .utf8 ∨ ∃ bigEndian, charset = .utf16 bigEndian := by
  rw [sniff.eq_def] at h
  split at h
  all_goals cases h
  all_goals first | exact .inl rfl | exact .inr ⟨_, rfl⟩

/-- A text up to its first closing mark does not depend on what follows the mark. -/
theorem untilClosing_eq_some {cs inner after : List Char} (h : untilClosing cs = some (inner, after)) :
    cs = inner ++ '?' :: '>' :: after ∧
      ∀ other, untilClosing (inner ++ '?' :: '>' :: other) = some (inner, other) := by
  induction cs using untilClosing.induct generalizing inner with
  | case1 => cases h
  | case2 rest =>
      rw [untilClosing] at h
      cases h
      exact ⟨rfl, fun _ => rfl⟩
  | case3 c rest hc ih =>
      rw [untilClosing] at h
      · obtain ⟨⟨inner', after'⟩, hrest, heq⟩ := Option.map_eq_some_iff.mp h
        cases heq
        obtain ⟨rfl, hother⟩ := ih hrest
        refine ⟨rfl, fun other => ?_⟩
        rw [List.cons_append, untilClosing, hother]
        · rfl
        · intro later hquestion heq
          cases inner' with
          | nil => cases heq
          | cons d inner' =>
              cases heq
              exact hc _ hquestion rfl
      · exact hc

theorem untilClosing_append_of_eq_some {cs more inner after : List Char} (h : untilClosing cs = some (inner, after)) :
    untilClosing (cs ++ more) = some (inner, after ++ more) := by
  obtain ⟨rfl, hother⟩ := untilClosing_eq_some h
  rw [List.append_assoc, List.cons_append, List.cons_append, hother]

/-- A mark does not end with any other character than its own. -/
theorem untilClosing_concat {cs : List Char} {c : Char} (hc : c ≠ '>') (h : untilClosing cs = none) :
    untilClosing (cs ++ [c]) = none := by
  rcases hfound : untilClosing (cs ++ [c]) with _ | ⟨inner, after⟩
  · rfl
  obtain ⟨heq, hother⟩ := untilClosing_eq_some hfound
  rcases List.eq_nil_or_concat after with rfl | ⟨after, d, rfl⟩
  · have hlast : cs ++ [c] = (inner ++ ['?']) ++ ['>'] := by
      rw [heq, List.append_assoc]
      rfl
    exact absurd (List.append_inj' hlast rfl).2 (by simpa using hc)
  · have hfront : cs ++ [c] = (inner ++ '?' :: '>' :: after) ++ [d] := by
      rw [heq, List.concat_eq_append, List.append_assoc]
      rfl
    rw [(List.append_inj' hfront rfl).1, hother] at h
    cases h

/-- The plain view of the front of a byte string is the front of its plain view, up to a unit that is cut in two. -/
theorem exists_plainView_append (hcharset : charset = .utf8 ∨ ∃ bigEndian, charset = .utf16 bigEndian)
    (front back : List UInt8) :
    ∃ shared, shared <+: plainView charset (front ++ back) ∧ shared.length = front.length / unitSize charset ∧
      (plainView charset front = shared ∨ plainView charset front = shared ++ ['\uFFFD']) := by
  rcases hcharset with rfl | ⟨bigEndian, rfl⟩
  · exact ⟨_, (List.prefix_append front back).map _, by simp [unitSize], .inl rfl⟩
  induction front using bytePairs.induct with
  | case1 => exact ⟨[], List.nil_prefix, by simp, .inl rfl⟩
  | case2 byte => exact ⟨[], List.nil_prefix, by simp [unitSize], .inr rfl⟩
  | case3 first second rest ih =>
      obtain ⟨shared, hshared, hlength, hfront⟩ := ih
      refine ⟨_ :: shared, List.cons_prefix_cons.mpr ⟨rfl, hshared⟩, ?_, ?_⟩
      · rw [List.length_cons, hlength, List.length_cons, List.length_cons, unitSize]
        omega
      · exact hfront.imp (congrArg _) (congrArg _)

theorem decode?_of_pieces {c : Char} (hpieces : charset.pieces bytes = [some c]) (hallowed : isAllowed c = true) :
    charset.decode? bytes = some [c] := by
  rw [Charset.decode?, hpieces, List.mapM_cons, Option.filter_some_pos hallowed]
  rfl

theorem pieces_of_ascii {byte : UInt8} (h : (Char.ofNat byte.toNat).toNat < 0x80) :
    Charset.utf8.pieces [byte] = [some (Char.ofNat byte.toNat)] := by
  have hvalid : byte.toNat.isValidChar := .inl (byte.toNat_lt.trans (by decide))
  rw [Char.toNat_ofNat, if_pos hvalid] at h
  rw [Charset.pieces, Text.utf8Pieces, Text.Lead.ofByte, if_pos (UInt8.lt_iff_toNat_lt.mpr h)]
  rfl

theorem pieces_of_asciiPair {bigEndian : Bool} {first second : UInt8} {unit : Nat}
    (hunit : bytePairs bigEndian [first, second] = [some unit]) (hpositive : (Char.ofNat unit).toNat ≠ 0)
    (h : (Char.ofNat unit).toNat < 0x80) :
    (Charset.utf16 bigEndian).pieces [first, second] = [some (Char.ofNat unit)] := by
  have hlow : unit < 0x80 := by
    rw [Char.toNat_ofNat] at h hpositive
    split at h
    · exact h
    · rename_i hvalid
      rw [if_neg hvalid] at hpositive
      exact absurd rfl hpositive
  rw [Charset.pieces, hunit, ofUnits_cons, if_pos]
  · rfl
  · simp only [Bool.or_eq_true, decide_eq_true_eq]
    omega

theorem toNat_ne_zero_of_isAllowed {c : Char} (h : isAllowed c = true) : c.toNat ≠ 0 := by
  intro hzero
  rw [isAllowed, hzero] at h
  exact absurd h (by decide)

/-- What the plain view shows of a document in ASCII is its text. -/
theorem decode?_of_plainView (hcharset : charset = .utf8 ∨ ∃ bigEndian, charset = .utf16 bigEndian)
    (h : ∀ c ∈ plainView charset bytes, c.toNat < 0x80 ∧ isAllowed c = true) :
    charset.decode? bytes = some (plainView charset bytes) := by
  rcases hcharset with rfl | ⟨bigEndian, rfl⟩
  · induction bytes with
    | nil => rfl
    | cons byte rest ih =>
        obtain ⟨hascii, hallowed⟩ := h (Char.ofNat byte.toNat) List.mem_cons_self
        have hfirst := decode?_of_pieces (pieces_of_ascii hascii) hallowed
        have hrest := ih fun c hc => h c (List.mem_cons_of_mem _ hc)
        have hwhole : Charset.utf8.decode? ([byte] ++ rest) = _ := Charset.decode?_append hfirst
        rw [hrest] at hwhole
        exact hwhole
  · induction bytes using bytePairs.induct with
    | case1 => rfl
    | case2 byte => exact absurd (h '\uFFFD' List.mem_cons_self).1 (by decide)
    | case3 first second rest ih =>
        obtain ⟨hascii, hallowed⟩ := h _ List.mem_cons_self
        have hfirst := decode?_of_pieces (pieces_of_asciiPair rfl (toNat_ne_zero_of_isAllowed hallowed) hascii) hallowed
        have hrest := ih fun c hc => h c (List.mem_cons_of_mem _ hc)
        have hwhole : (Charset.utf16 bigEndian).decode? ([first, second] ++ rest) = _ := Charset.decode?_append hfirst
        rw [hrest] at hwhole
        exact hwhole

/-- Whether a text begins with a declaration. -/
def Declares (view : List Char) : Prop :=
  ∃ c rest, view = "<?xml".toList ++ c :: rest ∧ isSpace c = true

theorem not_declares_iff {view : List Char} :
    (decide (view.take 5 ≠ "<?xml".toList) || !(view.drop 5).head?.any isSpace) = true ↔ ¬Declares view := by
  rw [← not_iff_not, not_not]
  constructor
  · intro h
    simp only [Bool.or_eq_true, Bool.not_eq_true', decide_eq_true_eq, not_or, not_not, Bool.not_eq_false] at h
    obtain ⟨htake, hspace⟩ := h
    obtain ⟨c, hhead, hc⟩ := (Option.any_eq_true _ _).mp hspace
    obtain ⟨rest, hrest⟩ := List.head?_eq_some_iff.mp hhead
    exact ⟨c, rest, by rw [← htake, ← hrest, List.take_append_drop], hc⟩
  · rintro ⟨c, rest, rfl, hc⟩
    simp [hc]

/-- The opening that a declaration gives. -/
def Opening.ofDeclaration (charset : Charset) (inner : List Char) (body : List UInt8) : Except OpeningError Opening :=
  match declaration? inner with
  | none => .error .malformed
  | some (none, standalone) => .ok ⟨charset, standalone, body⟩
  | some (some name, standalone) =>
    match charset.declared (String.ofList name) with
    | .ok (some declared) => .ok ⟨declared, standalone, body⟩
    | .ok none => .error .malformed
    | .error cause => .error (.charset cause)

theorem Opening.ofDeclaration_eq_ok {inner : List Char} {opening : Opening}
    (h : ofDeclaration charset inner rest = .ok opening) :
    opening.body = rest ∧ ∀ other, ofDeclaration charset inner other = .ok { opening with body := other } := by
  unfold ofDeclaration at h ⊢
  split at h
  · cases h
  · cases h
    exact ⟨rfl, fun _ => rfl⟩
  · split at h
    · cases h
      exact ⟨rfl, fun _ => rfl⟩
    · cases h
    · cases h

theorem Opening.ofBytes_of_not_declares (hsniff : sniff bytes = some (charset, rest))
    (h : ¬Declares (plainView charset rest)) : ofBytes bytes = .ok ⟨charset, false, rest⟩ := by
  rw [ofBytes, hsniff]
  exact if_pos (not_declares_iff.mpr h)

theorem Opening.ofBytes_of_declares (hsniff : sniff bytes = some (charset, rest))
    (h : Declares (plainView charset rest)) :
    ofBytes bytes =
      match untilClosing ((plainView charset rest).drop 5) with
      | none => .error .malformed
      | some (inner, _) =>
        ofDeclaration charset inner (rest.drop ((5 + inner.length + 2) * unitSize charset)) := by
  rw [ofBytes, hsniff]
  simp only
  rw [if_neg fun hskip => not_declares_iff.mp hskip h]
  rcases untilClosing ((plainView charset rest).drop 5) with _ | ⟨inner, after⟩
  · rfl
  simp only [ofDeclaration]
  rcases declaration? inner with _ | ⟨_ | name, standalone⟩ <;> rfl

/-- Whether a view is another one, or goes on after it with a unit that was cut in two. -/
def IsTorn (view shared : List Char) : Prop :=
  view = shared ∨ view = shared ++ ['\uFFFD']

section Torn

variable {view whole shared inner after : List Char}

theorem declares_of_append {more : List Char} (h : Declares view) : Declares (view ++ more) := by
  obtain ⟨c, rest, rfl, hc⟩ := h
  exact ⟨c, rest ++ more, by rw [List.append_assoc, List.cons_append], hc⟩

theorem IsTorn.declares_iff (h : IsTorn view shared) : Declares view ↔ Declares shared := by
  rcases h with rfl | rfl
  · exact Iff.rfl
  refine ⟨fun hdeclares => ?_, declares_of_append⟩
  obtain ⟨c, rest, heq, hc⟩ := hdeclares
  rcases List.eq_nil_or_concat rest with rfl | ⟨rest, d, rfl⟩
  · rw [(List.singleton_inj.mp (List.append_inj' heq rfl).2).symm] at hc
    exact absurd hc (by decide)
  · have hlast : shared ++ ['\uFFFD'] = ("<?xml".toList ++ c :: rest) ++ [d] := by
      rw [heq, List.concat_eq_append, List.append_assoc, List.cons_append]
    exact ⟨c, rest, (List.append_inj' hlast rfl).1, hc⟩

theorem five_lt_of_declares (h : Declares view) : 5 < view.length := by
  obtain ⟨c, rest, rfl, -⟩ := h
  simp

theorem declares_of_shared (h : Declares whole) (hshared : shared <+: whole) (hlength : 5 < shared.length) :
    Declares shared := by
  obtain ⟨c, rest, rfl, hc⟩ := h
  have hbegin : "<?xml".toList ++ [c] <+: "<?xml".toList ++ c :: rest := ⟨rest, by simp⟩
  obtain ⟨more, rfl⟩ := List.prefix_of_prefix_length_le hbegin hshared (by simpa using Nat.succ_le_of_lt hlength)
  exact ⟨c, more, by simp, hc⟩

/-- The closing mark is found in the front of a text if it is there. -/
theorem IsTorn.untilClosing_of_le (h : IsTorn view shared) (hshared : shared <+: whole)
    (hclosing : untilClosing (whole.drop 5) = some (inner, after)) (hlength : 5 + inner.length + 2 ≤ shared.length) :
    ∃ after', untilClosing (view.drop 5) = some (inner, after') := by
  obtain ⟨heq, hother⟩ := untilClosing_eq_some hclosing
  have hbegin : inner ++ ['?', '>'] <+: whole.drop 5 := ⟨after, by rw [heq, List.append_assoc]; rfl⟩
  have hroom : (inner ++ ['?', '>']).length ≤ (shared.drop 5).length := by
    rw [List.length_append, List.length_drop]
    exact Nat.le_sub_of_add_le' hlength
  obtain ⟨after', hafter⟩ := List.prefix_of_prefix_length_le hbegin (hshared.drop 5) hroom
  have hfound : untilClosing (shared.drop 5) = some (inner, after') := by
    rw [← hafter, List.append_assoc]
    exact hother after'
  rcases h with rfl | rfl
  · exact ⟨after', hfound⟩
  · rw [List.drop_append_of_le_length (by omega)]
    exact ⟨_, untilClosing_append_of_eq_some hfound⟩

/-- The closing mark is not found before it is there. -/
theorem IsTorn.untilClosing_of_lt (h : IsTorn view shared) (hshared : shared <+: whole)
    (hclosing : untilClosing (whole.drop 5) = some (inner, after)) (hbegun : Declares shared)
    (hlength : shared.length < 5 + inner.length + 2) : untilClosing (view.drop 5) = none := by
  have hnone : untilClosing (shared.drop 5) = none := by
    rcases hfound : untilClosing (shared.drop 5) with _ | ⟨inner', after'⟩
    · rfl
    obtain ⟨more, hmore⟩ := hshared.drop 5
    rw [← hmore, untilClosing_append_of_eq_some hfound] at hclosing
    cases hclosing
    have hroom := congrArg List.length (untilClosing_eq_some hfound).1
    rw [List.length_drop, List.length_append, List.length_cons, List.length_cons] at hroom
    omega
  rcases h with rfl | rfl
  · exact hnone
  · rw [List.drop_append_of_le_length (five_lt_of_declares hbegun).le]
    exact untilClosing_concat (by decide) hnone

end Torn

theorem unitSize_pos (charset : Charset) : 0 < unitSize charset := by
  cases charset <;> simp [unitSize]

theorem plainView_take (hcharset : charset = .utf8 ∨ ∃ bigEndian, charset = .utf16 bigEndian) (bytes : List UInt8)
    (count : Nat) :
    plainView charset (bytes.take (count * unitSize charset)) = (plainView charset bytes).take count := by
  rcases hcharset with rfl | ⟨bigEndian, rfl⟩
  · simp [plainView, unitSize, List.map_take]
  induction count generalizing bytes with
  | zero => simp [plainView, bytePairs]
  | succ count ih =>
      rcases bytes with _ | ⟨first, _ | ⟨second, rest⟩⟩
      · simp [plainView, bytePairs]
      · rw [List.take_of_length_le (by simp [unitSize]; omega)]
        simp [plainView, bytePairs]
      · have hrest := ih rest
        rw [show (count + 1) * unitSize (.utf16 bigEndian) = count * unitSize (.utf16 bigEndian) + 2 by
          rw [unitSize, Nat.succ_mul]]
        exact congrArg _ hrest

/-- Too little for a declaration is too little for a tag. -/
theorem notMem_of_decode?_eq_some {text : List Char}
    (hcharset : charset = .utf8 ∨ ∃ bigEndian, charset = .utf16 bigEndian)
    (hdeclares : Declares (plainView charset (front ++ back))) (hshort : front.length < 6 * unitSize charset)
    (htext : charset.decode? front = some text) : '>' ∉ text := by
  obtain ⟨c, rest, hview, hc⟩ := hdeclares
  -- The bytes of the six characters that tell a declaration go on after the front.
  have hsix : plainView charset ((front ++ back).take (6 * unitSize charset)) = "<?xml".toList ++ [c] := by
    rw [plainView_take hcharset, hview]
    rfl
  have hletters : ∀ d ∈ "<?xml".toList, d.toNat < 0x80 ∧ isAllowed d = true ∧ d ≠ '>' := by
    intro d hd
    have hd : d ∈ ['<', '?', 'x', 'm', 'l'] := hd
    simp only [List.mem_cons, List.not_mem_nil, or_false] at hd
    rcases hd with rfl | rfl | rfl | rfl | rfl <;> decide
  have hplain : ∀ d ∈ "<?xml".toList ++ [c], d.toNat < 0x80 ∧ isAllowed d = true ∧ d ≠ '>' := by
    intro d hd
    rcases List.mem_append.mp hd with hletter | hspace
    · exact hletters d hletter
    · rw [List.mem_singleton.mp hspace]
      simp only [isSpace, Bool.or_eq_true, decide_eq_true_eq] at hc
      rcases hc with ((rfl | rfl) | rfl) | rfl <;> decide
  have hdecoded : charset.decode? ((front ++ back).take (6 * unitSize charset)) = some ("<?xml".toList ++ [c]) := by
    rw [decode?_of_plainView hcharset, hsix]
    rw [hsix]
    exact fun d hd => ⟨(hplain d hd).1, (hplain d hd).2.1⟩
  rw [List.take_append, List.take_of_length_le hshort.le, Charset.decode?_append htext] at hdecoded
  obtain ⟨more, -, hmore⟩ := Option.map_eq_some_iff.mp hdecoded
  intro hmem
  have hbegun : '>' ∈ "<?xml".toList ++ [c] := hmore ▸ List.mem_append_left more hmem
  exact (hplain _ hbegun).2.2 rfl

/-- What the opening of the front of a document says. -/
theorem Opening.ofBytes_append {opening : Opening} (h : ofBytes (front ++ back) = .ok opening) :
    ofBytes front = .error .malformed ∨
      (∃ body, ofBytes front = .ok { opening with body := body } ∧ opening.body = body ++ back) ∨
      ∃ begun, ofBytes front = .ok begun ∧ ∀ text, begun.charset.decode? begun.body = some text → '>' ∉ text := by
  rcases hsniff : sniff (front ++ back) with _ | ⟨charset, rest⟩
  · rw [ofBytes, hsniff] at h
    cases h
  rcases sniff_append hsniff with hnone | rfl | ⟨body, hfront, rfl⟩
  · refine .inl ?_
    rw [ofBytes, hnone]
  · refine .inr (.inr ⟨⟨.utf8, false, [0xEF, 0xBB]⟩, rfl, fun text htext => ?_⟩)
    cases htext
  have hcharset := charset_of_sniff hsniff
  obtain ⟨shared, hshared, hlength, htorn⟩ := exists_plainView_append hcharset body back
  by_cases hdeclares : Declares (plainView charset (body ++ back))
  · rw [ofBytes_of_declares hsniff hdeclares] at h
    rcases hclosing : untilClosing ((plainView charset (body ++ back)).drop 5) with _ | ⟨inner, after⟩
    · rw [hclosing] at h
      cases h
    rw [hclosing] at h
    obtain ⟨hbody, hother⟩ := ofDeclaration_eq_ok h
    by_cases hbegun : Declares shared
    · rw [ofBytes_of_declares hfront ((IsTorn.declares_iff htorn).mpr hbegun)]
      rcases Nat.lt_or_ge shared.length (5 + inner.length + 2) with hlt | hle
      · refine .inl ?_
        rw [IsTorn.untilClosing_of_lt htorn hshared hclosing hbegun hlt]
      · obtain ⟨after', hafter⟩ := IsTorn.untilClosing_of_le htorn hshared hclosing hle
        have hsize : (5 + inner.length + 2) * unitSize charset ≤ body.length := by
          rw [hlength] at hle
          exact (Nat.le_div_iff_mul_le (unitSize_pos charset)).mp hle
        refine .inr (.inl ⟨body.drop ((5 + inner.length + 2) * unitSize charset), ?_, ?_⟩)
        · rw [hafter]
          exact hother _
        · rw [hbody, List.drop_append_of_le_length hsize]
    · refine .inr (.inr ⟨_, ofBytes_of_not_declares hfront fun hview => hbegun ((IsTorn.declares_iff htorn).mp hview),
        fun text htext => notMem_of_decode?_eq_some hcharset hdeclares ?_ htext⟩)
      by_contra hlong
      refine hbegun (declares_of_shared hdeclares hshared ?_)
      rw [hlength]
      exact (Nat.le_div_iff_mul_le (unitSize_pos charset)).mpr (Nat.not_lt.mp hlong)
  · rw [ofBytes_of_not_declares hsniff hdeclares] at h
    cases h
    refine .inr (.inl ⟨body, ofBytes_of_not_declares hfront fun hview => hdeclares ?_, rfl⟩)
    obtain ⟨more, hmore⟩ := hshared
    rw [← hmore]
    exact declares_of_append ((IsTorn.declares_iff htorn).mp hview)

end Gatekeeper.Markup

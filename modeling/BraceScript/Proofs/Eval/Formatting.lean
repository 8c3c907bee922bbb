import BraceScript.Proofs.Eval.TextHelpers

/-!
# Formatting

Formatting a template asks the arguments of its placeholders for their texts from the left to the
right. `Asked` says what this comes to, with the store going on from one argument to the next.
Formatting ends as it does, whether it takes the template apart itself or leaves that to the function
for substitutions (`fills_format`). So do joining values (`apply_concat`) and adding them to a text
one after the other (`foldlM_add`), which is why the three can stand for each other
(`format_template`).
-/

namespace BraceScript.Eval

open Text (Points)

/-! ## Asking for texts -/

/-- Asking some values for their texts in order ends in `r`: in the texts, or in what the first
value that has none ends in. The helpers mean what they should all the time. With `plain` the texts
are no objects. -/
inductive Asked (n : Nat) (plain : Bool) :
    Store → List Value → Except Stop (List Points) → Store → Prop
  | nil {s : Store} (hs : s.Formats) : Asked n plain s [] (.ok []) s
  | text {s t u : Store} {v w : Value} {vs : List Value} {p : Points}
    {r : Except Stop (List Points)} (hs : s.Formats)
    (hv : apply n (.native .text) [v] s = (.ok w, t)) (hw : t.bare w = .text p)
    (hplain : plain → w = .text p) (hrest : Asked n plain t vs r u) :
    Asked n plain s (v :: vs) (r.map (p :: ·)) u
  | error {s t : Store} {v : Value} {vs : List Value} {e : Stop} (hs : s.Formats)
    (hv : apply n (.native .text) [v] s = (.error e, t)) (he : e ≠ .outOfFuel) :
    Asked n plain s (v :: vs) (.error e) t

section
variable {n : Nat} {plain : Bool} {s u : Store} {vs : List Value} {r : Except Stop (List Points)}

theorem Asked.formats (h : Asked n plain s vs r u) : s.Formats := by
  cases h <;> assumption

/-- Asking for texts changes what running code can change. -/
theorem Asked.evolves {x : String} (h : Asked n plain s vs r u) (hs : Spared x s) :
    Evolves x s u := by
  induction h with
  | nil => exact .refl _
  | text _ hv _ _ _ ih =>
    have hstep := ((apply_leaves n _ _).after hs hv).1
    exact hstep.trans (ih (hstep.spared hs))
  | error _ hv _ => exact ((apply_leaves n _ _).after hs hv).1

/-- A text from before is a text still. -/
theorem Asked.bare_text (h : Asked n plain s vs r u) {w : Value} {p : Points}
    (hw : s.bare w = .text p) : u.bare w = .text p := by
  obtain ⟨x, hs⟩ := exists_spared_by s
  exact (h.evolves hs).bare_text hw

end

/-! ## Filling templates -/

/-- The arguments at some indices, up to the first index without one. -/
def asked (args : List Value) : List Nat → List Value
  | [] => []
  | i :: is =>
    match args[i]? with
    | some v => v :: asked args is
    | none => []

/-- A template with texts in its placeholders. -/
def filled : List Part → List Points → List Nat
  | .literal cs _ :: parts, ts => cs ++ filled parts ts
  | .place .. :: parts, t :: ts => t.codes ++ filled parts ts
  | _, _ => []

/-- Filling placeholders with some indices ends as asking for the texts of the arguments does, with
something good for the texts, or in an exception when there is no argument at an index. -/
structure Fills {α : Type} (args : List Value) (is : List Nat) (r : Except Stop (List Points))
    (u : Store) (good : List Points → α → Prop) (o : Except Stop α × Store) : Prop where
  error {e : Stop} : r = .error e → o = (.error e, u)
  ok {ts : List Points} : r = .ok ts → (∀ i ∈ is, i < args.length) → ∃ a, o = (.ok a, u) ∧ good ts a
  outside {ts : List Points} : r = .ok ts → (∃ i ∈ is, args.length ≤ i) → Raised "IndexError" o

section
variable {α β : Type} {args : List Value} {is js : List Nat} {r : Except Stop (List Points)}
  {s t u : Store} {caller : Caller} {good : List Points → α → Prop} {good' : List Points → β → Prop}

/-- What goes on well behind the texts, ends like them. -/
theorem Fills.bind {a : Calling α} {f : α → Calling β} {g : List Points → List Points}
    (h : Fills args is r u good (a caller s))
    (hf : ∀ ts x, good ts x → ∃ y, f x caller u = (.ok y, u) ∧ good' (g ts) y)
    (his : ∀ i ∈ is, i ∈ js) (hjs : ∀ j ∈ js, j ∈ is ∨ j < args.length) :
    Fills args js (r.map g) u good' ((a >>= f) caller s) := by
  cases r with
  | error e =>
    refine ⟨fun he => ?_, fun hts => (by cases hts), fun hts => (by cases hts)⟩
    cases he
    exact calling_bind_of_error f (h.error rfl)
  | ok ts =>
    refine ⟨fun he => (by cases he), fun hts hinside => ?_, fun _ hout => ?_⟩
    · cases hts
      obtain ⟨x, hx, hgood⟩ := h.ok rfl fun i hi => hinside i (his i hi)
      obtain ⟨y, hy, hgood'⟩ := hf ts x hgood
      exact ⟨y, (calling_bind_of_ok f hx).trans hy, hgood'⟩
    · obtain ⟨j, hj, hlong⟩ := hout
      have hmem : j ∈ is := (hjs j hj).resolve_right (not_lt.mpr hlong)
      exact (h.outside rfl ⟨j, hmem, hlong⟩).calling_bind f

/-- Nothing is asked for at an index without an argument. -/
theorem Fills.of_raised {i : Nat} {o : Except Stop α × Store} (hi : args.length ≤ i)
    (ho : Raised "IndexError" o) : Fills args (i :: is) (.ok []) u good o where
  error he := by cases he
  ok _ hinside := absurd (hinside i List.mem_cons_self) (not_lt.mpr hi)
  outside _ _ := ho

theorem Fills.of_error (e : Stop) : Fills args is (.error e) u good (.error e, u) := by
  refine ⟨fun he => ?_, fun hts => (by cases hts), fun hts => (by cases hts)⟩
  cases he
  rfl

/-- What is done for a placeholder, in front of what is done for those behind it. Without an argument
it ends in an exception, and otherwise as asking for the text of the argument does. -/
theorem Fills.place {n k : Nat} {plain : Bool} {i : Nat} {γ : Type} {act : Calling γ}
    {behind : Calling α} {f : γ → α → Calling β} (hnk : n ≤ k)
    (h : Asked n plain s (asked args (i :: is)) r u)
    (hnone : args[i]? = none → Raised "IndexError" (act caller s))
    (herror : ∀ v e t, args[i]? = some v → apply k (.native .text) [v] s = (.error e, t) →
      act caller s = (.error e, t))
    (hok : ∀ v w p t, args[i]? = some v → apply k (.native .text) [v] s = (.ok w, t) →
      t.bare w = .text p → u.bare w = .text p → ∃ y, act caller s = (.ok y, t)
        ∧ ∀ ts x, good ts x → ∃ z, f y x caller u = (.ok z, u) ∧ good' (p :: ts) z)
    (hbehind : ∀ t r, Asked n plain t (asked args is) r u →
      Fills args is r u good (behind caller t)) :
    Fills args (i :: is) r u good' ((act >>= fun y => behind >>= f y) caller s) := by
  cases hv : args[i]? with
  | none =>
    rw [asked, hv] at h
    cases h
    exact .of_raised (List.getElem?_eq_none_iff.mp hv) ((hnone hv).calling_bind _)
  | some v =>
    rw [asked, hv] at h
    cases h with
    | @error s t v vs e hs hask he =>
      have hmore := apply_further hnk hask (by simpa using he)
      rw [calling_bind_of_error _ (herror v e u hv hmore)]
      exact .of_error e
    | @text s t u v w vs p r hs hask hw hplain hrest =>
      have hmore := apply_further hnk hask (by simp)
      obtain ⟨y, hact, hgood⟩ := hok v w p t hv hmore hw (hrest.bare_text hw)
      rw [calling_bind_of_ok _ hact]
      refine (hbehind t r hrest).bind hgood (fun j hj => List.mem_cons_of_mem i hj) fun j hj => ?_
      rcases List.mem_cons.mp hj with rfl | hj
      · exact .inr (List.getElem?_eq_some_iff.mp hv).1
      · exact .inl hj

end

/-! ## Pieces without names -/

theorem mapM_literal {args : Value} {caller : Caller} {s : Store} (cs : List Nat) :
    (cs.map Piece.code).mapM (pieceText args) caller s = (.ok (cs.map fun c => ⟨[c]⟩), s) := by
  induction cs with
  | nil => rfl
  | cons c cs ih =>
    rw [List.map_cons, List.mapM_cons]
    show ((cs.map Piece.code).mapM (pieceText args) >>= fun ts => pure (⟨[c]⟩ :: ts) :
      Calling (List Points)) caller s = _
    rw [calling_bind_of_ok _ ih]
    rfl

theorem pieceText_argument {args : Value} {ds : List Nat} (hlimit : ds.length ≤ Number.digitLimit)
    {caller : Caller} {s : Store} : pieceText args (.argument ds) caller s
      = (index args (.int (indexOf ds)) >>= textOfArgument) caller s := by
  show (check (readNumber ds) >>= fun i => (index args (.int (i : Nat)) >>= textOfArgument) caller :
    Eval Points) s = _
  rw [readNumber_digits hlimit]
  rfl

theorem textOfArgument_ok {k : Nat} {v w : Value} {s t : Store} {p : Points}
    (hv : apply (k + 1) (.native .text) [v] s = (.ok w, t)) (hw : t.bare w = .text p) :
    textOfArgument v (apply k) s = (.ok p, t) := by
  rw [apply_text] at hv
  unfold textOfArgument
  rw [calling_bind_of_ok _ hv, calling_get_bind, hw]
  rfl

theorem textOfArgument_error {k : Nat} {v : Value} {s t : Store} {e : Stop}
    (hv : apply (k + 1) (.native .text) [v] s = (.error e, t)) :
    textOfArgument v (apply k) s = (.error e, t) := by
  rw [apply_text] at hv
  unfold textOfArgument
  rw [calling_bind_of_error _ hv]

/-- Values hold texts that make up some code points. -/
def Holds (s : Store) (codes : List Nat) (vs : List Value) : Prop :=
  ∃ ts, List.Forall₂ (fun v t => s.bare v = .text t) vs ts ∧ ts.flatMap Points.codes = codes

theorem intercalate_empty (ts : List Points) :
    Points.intercalate Points.empty ts = ⟨ts.flatMap Points.codes⟩ := by
  refine congrArg Points.mk ?_
  induction ts with
  | nil => rfl
  | cons t ts ih =>
    cases ts with
    | nil => simp [Points.empty]
    | cons u ts =>
      rw [List.flatMap_cons, ← ih]
      rfl

theorem Holds.joinTexts {s : Store} {codes : List Nat} {vs : List Value} (h : Holds s codes vs)
    {caller : Caller} : joinTexts Points.empty vs caller s = (.ok (.text ⟨codes⟩), s) := by
  obtain ⟨ts, hts, rfl⟩ := h
  rw [joinTexts_eq hts, intercalate_empty]

theorem Holds.append {s : Store} {cs ds : List Nat} {vs ws : List Value} (hv : Holds s cs vs)
    (hw : Holds s ds ws) : Holds s (cs ++ ds) (vs ++ ws) := by
  obtain ⟨ts, hts, rfl⟩ := hv
  obtain ⟨us, hus, rfl⟩ := hw
  exact ⟨ts ++ us, List.rel_append hts hus, List.flatMap_append⟩

theorem Holds.literal (s : Store) (before : List Nat) :
    Holds s before.reverse (substituted.literal before) := by
  cases before with
  | nil => exact ⟨[], .nil, rfl⟩
  | cons c cs => exact ⟨[⟨(c :: cs).reverse⟩], .cons rfl .nil, by simp⟩

/-- Only null leaves a placeholder empty. -/
theorem Holds.replacement {s : Store} {w : Value} {p : Points} :
    s.bare w = .text p → Holds s p.codes (match w with
      | .null => []
      | v => [v]) := by
  intro hw
  split
  · cases hw
  · exact ⟨[p], .cons hw .nil, by simp⟩

theorem substituted_literal (replace : List Nat → Calling Value) (before cs : List Nat)
    (ps : List Piece) : substituted replace before (cs.map .code ++ ps)
      = substituted replace (cs.reverse ++ before) ps := by
  induction cs generalizing before with
  | nil => rfl
  | cons c cs ih =>
    rw [List.map_cons, List.cons_append, substituted, ih]
    simp

section
variable {n : Nat} {plain : Bool} {args : List Value} (hcount : args.length ≤ indexBound)
include hcount

/-- Without names, the pieces become texts one after the other. -/
theorem fills_pieces {k : Nat} (hnk : n ≤ k + 1) {parts : List Part}
    (hparts : ∀ part ∈ parts, part.Readable) {s u : Store} {r : Except Stop (List Points)}
    (h : Asked n plain s (asked args (indices parts)) r u) :
    Fills args (indices parts) r u (fun ts ps => ps.flatMap Points.codes = filled parts ts)
      ((parts.flatMap Part.pieces).mapM (pieceText (.tuple args)) (apply k) s) := by
  induction parts generalizing s r with
  | nil =>
    cases h
    refine ⟨fun he => (by cases he), fun hts _ => ⟨[], rfl, ?_⟩, fun _ hout => ?_⟩
    · cases hts
      rfl
    · simp [indices] at hout
  | cons part parts ih =>
    obtain ⟨hpart, hbehind⟩ := List.forall_mem_cons.mp hparts
    cases part with
    | literal cs hcs =>
      have hsame : r = r.map id := by rw [Except.map_id, id]
      rw [hsame, List.flatMap_cons, List.mapM_append, Part.pieces,
        calling_bind_of_ok _ (mapM_literal cs)]
      refine (ih hbehind h).bind (fun ts ps hps => ⟨_, rfl, ?_⟩) (fun i hi => hi)
        fun i hi => .inl hi
      have hcodes : (cs.map fun c => (⟨[c]⟩ : Points)).flatMap Points.codes = cs := by
        rw [List.flatMap_map]
        exact List.flatMap_singleton' cs
      rw [List.flatMap_append, hcodes, hps]
      rfl
    | place ds hne hds =>
      rw [indices_place] at h ⊢
      rw [List.flatMap_cons, Part.pieces, List.singleton_append, List.mapM_cons]
      refine .place (k := k + 1) hnk h (fun hv => ?_) (fun v e t hv hask => ?_)
        (fun v w p t hv hask hw _ => ⟨p, ?_, fun ts ps hps => ⟨_, rfl, ?_⟩⟩)
        fun t r => ih hbehind
      · rw [pieceText_argument hpart]
        exact (index_tuple_outside hv).calling_bind _
      · rw [pieceText_argument hpart, calling_bind_of_ok _ (index_tuple hv hcount),
          textOfArgument_error hask]
      · rw [pieceText_argument hpart, calling_bind_of_ok _ (index_tuple hv hcount),
          textOfArgument_ok hask hw]
      · rw [List.flatMap_cons, hps]
        rfl

/-- By names, the digits of the placeholders become values one after the other. -/
theorem fills_substituted {k : Nat} (hnk : n ≤ k + 1) {parts : List Part}
    (hparts : ∀ part ∈ parts, part.Readable) {s u : Store} {r : Except Stop (List Points)}
    (h : Asked n plain s (asked args (indices parts)) r u) (before : List Nat) :
    Fills args (indices parts) r u
      (fun ts vs => Holds u (before.reverse ++ filled parts ts) vs)
      (substituted (fun ds => call (.method (.tuple args) (.native .replacement)) [.text ⟨ds⟩])
        before (parts.flatMap Part.pieces) (apply (k + 3)) s) := by
  induction parts generalizing s r before with
  | nil =>
    cases h
    refine ⟨fun he => (by cases he), fun hts _ => ⟨_, rfl, ?_⟩, fun _ hout => ?_⟩
    · cases hts
      show Holds u (before.reverse ++ []) (substituted.literal before)
      rw [List.append_nil]
      exact .literal u before
    · simp [indices] at hout
  | cons part parts ih =>
    obtain ⟨hpart, hbehind⟩ := List.forall_mem_cons.mp hparts
    cases part with
    | literal cs hcs =>
      have hrest := ih hbehind h (cs.reverse ++ before)
      rw [indices_literal, List.flatMap_cons, Part.pieces, substituted_literal]
      simpa [filled] using hrest
    | place ds hne hds =>
      have hs := h.formats
      rw [indices_place] at h ⊢
      rw [List.flatMap_cons, Part.pieces, List.singleton_append, substituted]
      refine .place (k := k + 1) hnk h (fun hv => ?_) (fun v e t hv hask => ?_)
        (fun v w p t hv hask _ hkept => ⟨w, ?_, fun ts vs hvs => ⟨_, rfl, ?_⟩⟩)
        fun t r hrest => ih hbehind hrest []
      · exact apply_replacement_none hs hne hds hpart hv k
      · exact (apply_replacement_some hs hne hds hpart hv hcount k).trans hask
      · exact (apply_replacement_some hs hne hds hpart hv hcount k).trans hask
      · have hcodes : before.reverse ++ filled (.place ds hne hds :: parts) (p :: ts)
            = before.reverse ++ p.codes ++ ([].reverse ++ filled parts ts) := by
          simp [filled]
        rw [hcodes]
        exact ((Holds.literal u before).append (.replacement hkept)).append hvs

/-- Formatting fills the placeholders of the template. -/
theorem fills_format {k : Nat} (hnk : n ≤ k) {parts : List Part}
    (hparts : ∀ part ∈ parts, part.Readable) {s u : Store} {r : Except Stop (List Points)}
    (h : Asked n plain s (asked args (indices parts)) r u) :
    Fills args (indices parts) r u (fun ts v => v = .text ⟨filled parts ts⟩)
      (apply (k + 5) (.native .format) [.text (template parts), .tuple args] s) := by
  have hbind : Native.format.signature.bind [.text (template parts), .tuple args]
      = .ok ([.text (template parts), .tuple args], []) := rfl
  have hsame : r = r.map id := by rw [Except.map_id, id]
  rw [apply_native (k + 4) hbind, hsame]
  show Fills _ _ _ _ _ (scriptFormat (.text (template parts)) (.tuple args) (apply (k + 4)) s)
  unfold scriptFormat
  rw [calling_get_bind]
  cases s.isDirect [.text (template parts)] with
  | true =>
    have hpieces := fills_pieces hcount (k := k + 4) (by omega) hparts h
    show Fills _ _ _ _ _ ((text (.text (template parts)) >>= fun t => fill t (.tuple args) >>=
      fun t => pure (.text t) : Calling Value) (apply (k + 4)) s)
    rw [calling_bind_of_ok _ (text_text _)]
    unfold fill
    rw [pieces_template, bind_assoc]
    refine hpieces.bind (fun ts ps hps => ⟨_, rfl, ?_⟩) (fun i hi => hi) fun i hi => .inl hi
    exact congrArg (fun cs => Value.text ⟨cs⟩) hps
  | false =>
    have hs := h.formats
    have hvalues := fills_substituted hcount (k := k) (by omega) hparts h []
    have htemplate := (useName_text hs (k + 4) (.text (template parts))).trans
      (apply_text_text hs (k + 2) _)
    show Fills _ _ _ _ _ ((globalValue "_re" >>= fun re => attrOf re "sub" >>= fun f =>
      useName "_cs_str" [.text (template parts)] >>= fun t => call f [placeholderPattern,
        .method (.tuple args) (.native .replacement), t] : Calling Value) (apply (k + 4)) s)
    rw [calling_bind_of_ok _ (globalValue_standard hs.names (x := "_re")
        (v := sharedModule "re") (by decide) rfl),
      calling_bind_of_ok _ (attrOf_sub hs), calling_bind_of_ok _ htemplate]
    have hsamePattern : (placeholderPattern : Value).same placeholderPattern := by decide
    show Fills _ _ _ _ _ (substitute placeholderPattern
      (.method (.tuple args) (.native .replacement)) (.text (template parts)) (apply (k + 3)) s)
    unfold substitute
    rw [calling_get_bind]
    dsimp only [Store.bare]
    rw [if_pos hsamePattern, pieces_template]
    refine hvalues.bind (fun ts vs hvs => ?_) (fun i hi => hi) fun i hi => .inl hi
    exact ⟨_, hvs.joinTexts, rfl⟩

end

/-! ## Ways to put texts together -/

section
variable {n k : Nat} {plain : Bool} {s t u : Store} {v : Value} {vs : List Value}
  {r : Except Stop (List Points)}

/-- What comes of texts that are put together. -/
def together (r : Except Stop (List Points)) : Except Stop Value :=
  r.map fun ts => .text ⟨ts.flatMap Points.codes⟩

theorem Asked.length (h : Asked n plain s vs r u) {ts : List Points} (hr : r = .ok ts) :
    ts.length = vs.length := by
  induction h generalizing ts with
  | nil => cases hr; rfl
  | error => cases hr
  | @text s t u v w vs p r _ _ _ _ _ ih =>
    cases r with
    | error e => cases hr
    | ok ts' =>
      cases hr
      rw [List.length_cons, List.length_cons, ih rfl]

theorem asked_range (vs : List Value) : asked vs (List.range vs.length) = vs := by
  have hbehind (m i : Nat) (hm : i + m = vs.length) : asked vs (List.range' i m) = vs.drop i := by
    induction m generalizing i with
    | zero =>
      obtain rfl : i = vs.length := by simpa using hm
      rw [List.range'_zero, asked, List.drop_length]
    | succ m ih =>
      have hi : i < vs.length := by omega
      rw [List.range'_succ, asked, List.getElem?_eq_getElem hi, List.drop_eq_getElem_cons hi]
      dsimp only
      rw [ih (i + 1) (by omega)]
  rw [List.range_eq_range']
  exact hbehind vs.length 0 (Nat.zero_add _)

theorem filled_numbered {is : List Nat} {ts : List Points} (h : ts.length = is.length) :
    filled (is.map Part.numbered) ts = ts.flatMap Points.codes := by
  induction is generalizing ts with
  | nil =>
    obtain rfl := List.length_eq_zero_iff.mp h
    rfl
  | cons i is ih =>
    cases ts with
    | nil => cases h
    | cons t ts =>
      rw [List.map_cons, List.flatMap_cons, ← ih (Nat.succ.inj h)]
      rfl

/-- A template with the first placeholders in order puts the texts together. -/
theorem apply_format_numbered (hnk : n ≤ k) (hcount : vs.length ≤ indexBound)
    (h : Asked n plain s vs r u) :
    apply (k + 5) (.native .format) [.text (template (numberedParts vs.length)), .tuple vs] s
      = (together r, u) := by
  have hfew : indexBound ≤ 10 ^ Number.digitLimit :=
    (Nat.pow_le_pow_left (by decide) 63).trans (Nat.pow_le_pow_right (by decide) (by decide))
  have hasked : Asked n plain s (asked vs (indices (numberedParts vs.length))) r u := by
    rwa [indices_numberedParts, asked_range]
  have hfills := fills_format hcount hnk (readable_numberedParts (hcount.trans hfew)) hasked
  cases r with
  | error e => exact hfills.error rfl
  | ok ts =>
    have hinside : ∀ i ∈ indices (numberedParts vs.length), i < vs.length := by
      rw [indices_numberedParts]
      exact fun i hi => List.mem_range.mp hi
    obtain ⟨v, hv, rfl⟩ := hfills.ok rfl hinside
    have hlength : ts.length = (List.range vs.length).length := by
      rw [List.length_range, h.length rfl]
    rw [hv, numberedParts, filled_numbered hlength]
    rfl

theorem Asked.mapM (hnk : n ≤ k) (h : Asked n plain s vs r u) :
    (∀ e, r = .error e →
      (vs.mapM fun v => useName "_cs_str" [v]) (apply k) s = (.error e, u))
    ∧ ∀ ts, r = .ok ts → ∃ ws, (vs.mapM fun v => useName "_cs_str" [v]) (apply k) s = (.ok ws, u)
      ∧ Holds u (ts.flatMap Points.codes) ws := by
  induction h with
  | nil =>
    refine ⟨fun e he => (by cases he), fun ts hts => ⟨[], rfl, ?_⟩⟩
    cases hts
    exact ⟨[], .nil, rfl⟩
  | error hs hv he =>
    have hmore := (useName_text hs k _).trans (apply_further hnk hv (by simpa using he))
    refine ⟨fun e he => ?_, fun ts hts => by cases hts⟩
    cases he
    rw [List.mapM_cons, calling_bind_of_error _ hmore]
  | @text s t u v w vs p r hs hv hw hplain hrest ih =>
    have hmore := (useName_text hs k _).trans (apply_further hnk hv (by simp))
    rw [List.mapM_cons, calling_bind_of_ok _ hmore]
    cases r with
    | error e =>
      refine ⟨fun e' he => ?_, fun ts hts => by cases hts⟩
      cases he
      rw [calling_bind_of_error _ (ih.1 e rfl)]
    | ok ts =>
      refine ⟨fun e he => (by cases he), fun ts' hts => ?_⟩
      cases hts
      obtain ⟨ws, hws, hholds⟩ := ih.2 ts rfl
      have hfirst : Holds u p.codes [w] := ⟨[p], .cons (hrest.bare_text hw) .nil, by simp⟩
      rw [calling_bind_of_ok _ hws]
      exact ⟨w :: ws, rfl, hfirst.append hholds⟩

/-- Joining puts the texts together. -/
theorem apply_concat (hnk : n ≤ k) (h : Asked n plain s vs r u) :
    apply (k + 1) (.native .concat) vs s = (together r, u) := by
  have hbind : Native.concat.signature.bind vs = .ok ([], vs) := rfl
  rw [apply_native k hbind]
  show scriptConcat vs (apply k) s = _
  unfold scriptConcat
  obtain ⟨herror, hok⟩ := h.mapM hnk
  cases r with
  | error e =>
    rw [calling_bind_of_error _ (herror e rfl)]
    rfl
  | ok ts =>
    obtain ⟨ws, hws, hholds⟩ := hok ts rfl
    rw [calling_bind_of_ok _ hws]
    exact hholds.joinTexts

/-- Adding values to a text one after the other puts their texts behind it. -/
theorem foldlM_add (hnk : n ≤ k + 2) (h : Asked n true s vs r u) (a : Points) :
    vs.foldlM (fun sum v => apply (k + 3) (.native .add) [sum, v]) (.text a) s
      = (r.map fun ts => .text ⟨a.codes ++ ts.flatMap Points.codes⟩, u) := by
  induction h generalizing a with
  | nil =>
    simp only [List.foldlM_nil, Except.map, List.flatMap_nil, List.append_nil]
    rfl
  | error hs hv he =>
    have hmore := apply_further hnk hv (by simpa using he)
    have hadd := apply_add (x := .error _) hs (by simpa using he) hmore a
    rw [List.foldlM_cons, bind_of_error _ hadd]
    rfl
  | @text s t u v w vs p r hs hv hw hplain hrest ih =>
    rw [hplain rfl] at hv
    have hmore := apply_further hnk hv (by simp)
    have hadd := apply_add (x := .ok p) hs (by simp) hmore a
    rw [List.foldlM_cons, bind_of_ok _ hadd, ih]
    cases r with
    | error e => rfl
    | ok ts => simp [Except.map]

end

/-- Formatting goes through a template from the left to the right. The texts around the placeholders
stay as they are, and so do the texts that are put into these, whatever they hold; the first
exception of an argument ends it, and so does an index without an argument. A template with the
first placeholders in order does what joining the values does, and adding them one after the other
to an empty text, if their texts are no objects. -/
theorem format_template {n : Nat} {s u : Store} {r : Except Stop (List Points)} :
    (∀ (plain : Bool) (parts : List Part) (args : List Value),
      (∀ part ∈ parts, part.Readable) → args.length ≤ indexBound →
      Asked n plain s (asked args (indices parts)) r u → ∀ m ≥ n + 5,
        (∀ e, r = .error e → apply m (.native .format) [.text (template parts), .tuple args] s
          = (.error e, u))
        ∧ ∀ ts, r = .ok ts →
          ((∀ i ∈ indices parts, i < args.length) →
            apply m (.native .format) [.text (template parts), .tuple args] s
              = (.ok (.text ⟨filled parts ts⟩), u))
          ∧ ((∃ i ∈ indices parts, args.length ≤ i) → Raised "IndexError"
            (apply m (.native .format) [.text (template parts), .tuple args] s)))
    ∧ ∀ vs : List Value, vs.length ≤ indexBound → Asked n true s vs r u → ∀ m ≥ n + 5,
      apply m (.native .format) [.text (template (numberedParts vs.length)), .tuple vs] s
          = (together r, u)
        ∧ apply m (.native .concat) vs s = (together r, u)
        ∧ vs.foldlM (fun sum v => apply m (.native .add) [sum, v]) (.text Points.empty) s
          = (together r, u) := by
  refine ⟨fun plain parts args hparts hcount h m hm => ?_, fun vs hcount h m hm => ?_⟩
  · obtain ⟨k, rfl⟩ := Nat.exists_eq_add_of_le' (le_of_add_le_right hm)
    have hfills := fills_format hcount (k := k) (by omega) hparts h
    refine ⟨fun e he => hfills.error he, fun ts hts => ⟨fun hinside => ?_, hfills.outside hts⟩⟩
    obtain ⟨v, hv, rfl⟩ := hfills.ok hts hinside
    exact hv
  · obtain ⟨k, rfl⟩ := Nat.exists_eq_add_of_le' (le_of_add_le_right hm)
    exact ⟨apply_format_numbered (by omega) hcount h, apply_concat (k := k + 4) (by omega) h,
      foldlM_add (k := k + 2) (by omega) h Points.empty⟩

theorem formats_prelude : (prelude "").Formats where
  names := standard_of_start rfl rfl _
  sub := rfl

/-- The texts of texts. -/
theorem asked_texts {s : Store} (hs : s.Formats) (ts : List Points) :
    Asked 2 true s (ts.map .text) (.ok ts) s := by
  induction ts with
  | nil => exact .nil hs
  | cons t ts ih => exact .text hs (apply_text_text hs 0 t) rfl (fun _ => rfl) ih

/-- The parts of a template whose second argument comes first. -/
def swappedParts : List Part := [.literal ['<'.toNat] (by decide),
  .place ['0'.toNat, '1'.toNat] (by decide) (by decide), .place ['0'.toNat] (by decide) (by decide)]

theorem format_template_nested :
    apply 7 (.native .format) ["<\x7b01\x7d\x7b0\x7d", .tuple ["\x7b1\x7d", "x"]] (prelude "")
        = (.ok "<x\x7b1\x7d", prelude "")
      ∧ apply 7 (.native .concat) ["\x7b1\x7d", "x"] (prelude "")
        = (.ok "\x7b1\x7dx", prelude "") := by
  have hformat := (format_template.1 true swappedParts ["\x7b1\x7d", "x"] (by decide) (by decide)
    (asked_texts formats_prelude ["x", "\x7b1\x7d"]) 7 le_rfl).2 _ rfl
  have hjoin := format_template.2 ["\x7b1\x7d", "x"] (by decide)
    (asked_texts formats_prelude ["\x7b1\x7d", "x"]) 7 le_rfl
  exact ⟨hformat.1 (by decide), hjoin.2.1⟩

/-! ## Texts that are not put together -/

section
variable {s : Store} (hplain : s.isPlain = true)
include hplain

/-- A placeholder with too many digits is not read, whatever the digits are. -/
theorem raised_format_digits {ds : List Nat} (hne : ds ≠ []) (hds : ∀ d ∈ ds, isDigitCode d)
    (hlong : Number.digitLimit < ds.length) (args : Value) (n : Nat) :
    Raised "ValueError"
      (apply (n + 1) (.native .format) [.text (template [.place ds hne hds]), args] s) := by
  have hbind : Native.format.signature.bind [.text (template [.place ds hne hds]), args]
      = .ok ([.text (template [.place ds hne hds]), args], []) := rfl
  have hdirect : s.isDirect [.text (template [.place ds hne hds])] = true := by
    simp [Store.isDirect, hplain, isObject]
  have hpiece : Raised "ValueError" (pieceText args (.argument ds) (apply n) s) := by
    show Raised _ ((check (readNumber ds) >>= fun i => (index args (.int (i : Nat)) >>=
      textOfArgument) (apply n) : Eval Points) s)
    rw [readNumber, if_pos hlong]
    exact (raised_fail (.tooManyDigitsRead ds.length) s).bind _
  rw [apply_native n hbind]
  show Raised _ (scriptFormat (.text (template [.place ds hne hds])) args (apply n) s)
  unfold scriptFormat
  rw [calling_get_bind, hdirect]
  show Raised _ ((text (.text (template [.place ds hne hds])) >>= fun t => fill t args >>=
    fun t => pure (.text t) : Calling Value) (apply n) s)
  rw [calling_bind_of_ok _ (text_text _)]
  unfold fill
  rw [pieces_template]
  exact ((hpiece.calling_bind _).calling_bind _).calling_bind _

/-- An integer with too many digits has no text. -/
theorem raised_text_digits {i : Int} (hlong : Number.exceedsLimit i = true) (n : Nat) :
    Raised "ValueError" (apply (n + 1) (.native .text) [.int i] s) := by
  have hdirect : s.isDirect [.int i] = true := by simp [Store.isDirect, hplain, isObject]
  have htext : intText i = .error .tooManyDigits := if_pos hlong
  have hshown : Raised "ValueError" (shown (.int i) (apply n) s) := by
    obtain ⟨depth, hdepth⟩ : ∃ depth, s.shownDepth = depth + 1 := ⟨_, rfl⟩
    unfold shown
    rw [calling_get_bind, hdepth]
    unfold shownUpTo
    rw [calling_get_bind]
    dsimp only
    rw [htext]
    refine Raised.calling_bind ?_ _
    exact raised_fail .tooManyDigits s
  rw [apply_text, scriptText, calling_get_bind, hdirect, if_pos rfl]
  refine Raised.calling_bind ?_ _
  rw [plainScriptText_int]
  unfold text
  rw [calling_get_bind, textUpTo_int]
  exact hshown

end

/-- A program with an object that holds a text but has a sum of its own, and an object whose text it
is. -/
def wrappedStore : Store := { prelude "" with
  classes := (prelude "").classes ++ #[⟨"S", .core .text, [("__radd__", .function 0)], true⟩,
    ⟨"A", .core .object, [("__str__", .function 1)], true⟩]
  functions := #[⟨"S.__radd__", "S", 5, [("self", none), ("o", none)], ["self", "o"],
      [.ret (some .true)], []⟩,
    ⟨"A.__str__", "A", 6, [("self", none)], ["self"], [.ret (some (.attr (.name "self") "t"))], []⟩]
  objects := (prelude "").objects ++ #[⟨.loaded 5, [], [], [], some (.text "x")⟩,
    ⟨.loaded 6, [("t", .object 2)], [], [], none⟩] }

/-- A template with a placeholder of 4301 digits for the first argument. -/
def longPart : Part := .place (List.replicate (Number.digitLimit + 1) '0'.toNat) (by simp) <| by
  intro d hd
  rw [List.eq_of_mem_replicate hd]
  decide

/-- A placeholder for the first argument is not filled when it is written with too many digits, an
index without an argument does not count behind an argument without a text, and a text that is an
object can have a sum of its own. -/
theorem format_fails :
    (indices [longPart] = [0] ∧ Raised "ValueError" (apply 7 (.native .format)
        [.text (template [longPart]), .tuple ["a"]] (prelude "")))
      ∧ Raised "ValueError" (apply 7 (.native .format)
        [.text (template (numberedParts 2)), .tuple [.int (10 ^ 4300)]] (prelude ""))
      ∧ (apply 9 (.native .concat) [.object 3] wrappedStore).1 = .ok "x"
      ∧ (apply 9 (.native .add) ["", .object 3] wrappedStore).1 = .ok (.bool true) := by
  refine ⟨⟨?_, ?_⟩, ?_, rfl, rfl⟩
  · have hzero (n : Nat) : indexOf (List.replicate n '0'.toNat) = 0 := by
      induction n with
      | zero => rfl
      | succ n ih => exact ih
    exact congrArg (fun i => [i]) (hzero _)
  · exact raised_format_digits rfl _ _ (by simp) _ 6
  · obtain ⟨p, t, htext, hcls⟩ := raised_text_digits (s := prelude "") rfl
      (i := 10 ^ 4300) (by decide +kernel) 1
    have hasked : Asked 2 true (prelude "") (asked [.int (10 ^ 4300)] (indices (numberedParts 2)))
        (.error (.raised (.object p))) t := by
      rw [indices_numberedParts]
      exact .error formats_prelude htext (by simp)
    have hfills := fills_format (k := 2) (by decide) (by decide)
      (readable_numberedParts (by decide +kernel)) hasked
    exact ⟨p, t, hfills.error rfl, hcls⟩

end BraceScript.Eval

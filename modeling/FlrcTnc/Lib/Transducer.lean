import Mathlib.Data.List.Basic

/-! Letter-to-word transducers: machines that read one symbol at a time and answer each with a list
of outputs. -/

namespace Transducer

variable {σ α β : Type*} (step : σ → α → σ × List β)

/-- The final state and all outputs of a run over a word. -/
def run : σ → List α → σ × List β
  | s, [] => (s, [])
  | s, a :: word => ((run (step s a).1 word).1, (step s a).2 ++ (run (step s a).1 word).2)

@[simp] theorem run_nil (s : σ) : run step s [] = (s, []) := rfl

theorem run_cons (s : σ) (a : α) (word : List α) :
    run step s (a :: word) =
      ((run step (step s a).1 word).1, (step s a).2 ++ (run step (step s a).1 word).2) := rfl

@[simp] theorem run_singleton (s : σ) (a : α) : run step s [a] = step s a := by
  simp [run]

theorem run_append (s : σ) (u v : List α) :
    run step s (u ++ v) =
      ((run step (run step s u).1 v).1, (run step s u).2 ++ (run step (run step s u).1 v).2) := by
  induction u generalizing s with
  | nil => rfl
  | cons a u ih => simp only [List.cons_append, run_cons, ih, List.append_assoc]

/-- A word that keeps a silent state silent. -/
theorem run_silent {s : σ} {word : List α} (h : ∀ a ∈ word, step s a = (s, [])) :
    run step s word = (s, []) := by
  induction word with
  | nil => rfl
  | cons a word ih =>
    have ha := h a (List.mem_cons_self ..)
    rw [run_cons, ha, ih fun b hb => h b (List.mem_cons_of_mem _ hb)]
    rfl

/-- A word of blocks, each of which keeps the invariant and has its own output. -/
theorem run_blocks {γ : Type*} (inv : σ → Prop) (block : γ → List α) (output : γ → List β)
    (blocks : List γ)
    (h : ∀ s, inv s → ∀ c ∈ blocks,
      inv (run step s (block c)).1 ∧ (run step s (block c)).2 = output c)
    {s : σ} (hs : inv s) :
    inv (run step s (blocks.flatMap block)).1 ∧
      (run step s (blocks.flatMap block)).2 = blocks.flatMap output := by
  induction blocks generalizing s with
  | nil => exact ⟨hs, rfl⟩
  | cons c blocks ih =>
    obtain ⟨hinv, hout⟩ := h s hs c (List.mem_cons_self ..)
    obtain ⟨hinv', hout'⟩ := ih (fun s hs d hd => h s hs d (List.mem_cons_of_mem _ hd)) hinv
    rw [List.flatMap_cons, run_append, List.flatMap_cons, hout, hout']
    exact ⟨hinv', rfl⟩

/-- Reading a word in chunks is reading the word. -/
theorem run_flatten (s : σ) (chunks : List (List α)) :
    run (run step) s chunks = run step s chunks.flatten := by
  induction chunks generalizing s with
  | nil => rfl
  | cons chunk chunks ih => rw [run_cons, List.flatten_cons, run_append, ih]

/-- The same machine with its outputs spelled out. -/
theorem run_flatMap {γ : Type*} (spell : β → List γ) (s : σ) (word : List α) :
    run (fun s a => ((step s a).1, (step s a).2.flatMap spell)) s word =
      ((run step s word).1, (run step s word).2.flatMap spell) := by
  induction word generalizing s with
  | nil => rfl
  | cons a word ih => rw [run_cons, run_cons, ih, List.flatMap_append]

/-- Two machines, the second of which reads the symbols renamed, whose steps keep their states
related and answer alike but for a renaming. -/
theorem run_renamed {τ α' β' : Type*} {step : σ → α → σ × List β} {step' : τ → α' → τ × List β'}
    (f : α → α') (g : β → β') (R : σ → τ → Prop)
    (h : ∀ s t a, R s t → R (step s a).1 (step' t (f a)).1 ∧ (step' t (f a)).2 = (step s a).2.map g)
    {s : σ} {t : τ} (hst : R s t) (word : List α) :
    R (run step s word).1 (run step' t (word.map f)).1 ∧
      (run step' t (word.map f)).2 = (run step s word).2.map g := by
  induction word generalizing s t with
  | nil => exact ⟨hst, rfl⟩
  | cons a word ih =>
    obtain ⟨hnext, hout⟩ := h s t a hst
    obtain ⟨hend, houts⟩ := ih hnext
    rw [List.map_cons, run_cons, run_cons, List.map_append, ← hout, ← houts]
    exact ⟨hend, rfl⟩

/-- Two machines whose steps keep their states related and answer alike. -/
theorem run_related {τ : Type*} {step : σ → α → σ × List β} {step' : τ → α → τ × List β}
    (R : σ → τ → Prop)
    (h : ∀ s t a, R s t → R (step s a).1 (step' t a).1 ∧ (step s a).2 = (step' t a).2)
    {s : σ} {t : τ} (hst : R s t) (word : List α) :
    R (run step s word).1 (run step' t word).1 ∧ (run step s word).2 = (run step' t word).2 := by
  obtain ⟨hend, hout⟩ := run_renamed id id R
    (fun s t a hst => ⟨(h s t a hst).1, by rw [List.map_id]; exact (h s t a hst).2.symm⟩) hst word
  rw [List.map_id] at hend hout
  exact ⟨hend, by rw [hout, List.map_id]⟩

/-- An output of a run is one of the step at some symbol. -/
theorem mem_run {s : σ} {word : List α} {b : β} (h : b ∈ (run step s word).2) :
    ∃ before a after, word = before ++ a :: after ∧ b ∈ (step (run step s before).1 a).2 := by
  induction word generalizing s with
  | nil => cases h
  | cons a word ih =>
    rw [run_cons, List.mem_append] at h
    rcases h with h | h
    · exact ⟨[], a, word, rfl, h⟩
    · obtain ⟨before, c, after, rfl, hb⟩ := ih h
      exact ⟨a :: before, c, after, rfl, hb⟩

/-- A property of each state of a run and the symbol that it reads next. -/
def Along (P : σ → α → Prop) : σ → List α → Prop
  | _, [] => True
  | s, a :: word => P s a ∧ Along P (step s a).1 word

/-- What holds of the outputs of each step, in the states that such outputs lead to, holds of the
outputs of the run, all of which are known to satisfy `R`. -/
theorem forall_output_iff_while {inv : σ → Prop} {P : σ → α → Prop} {Q R : β → Prop}
    (hinv : ∀ s a, inv s → (∀ b ∈ (step s a).2, Q b) → inv (step s a).1)
    (h : ∀ s a, inv s → (∀ b ∈ (step s a).2, R b) → ((∀ b ∈ (step s a).2, Q b) ↔ P s a))
    {s : σ} (hs : inv s) {word : List α} (hrun : ∀ b ∈ (run step s word).2, R b) :
    (∀ b ∈ (run step s word).2, Q b) ↔ Along step P s word := by
  induction word generalizing s with
  | nil => simp [Along]
  | cons a word ih =>
    rw [run_cons, List.forall_mem_append] at hrun ⊢
    obtain ⟨hfirst, hrest⟩ := hrun
    rw [Along, ← h s a hs hfirst]
    exact and_congr_right fun hout => ih (hinv s a hs hout) hrest

/-- What holds of the outputs of each step, in the states that keep an invariant, holds of the
outputs of the run. -/
theorem forall_output_iff_of_inv (inv : σ → Prop) (hinv : ∀ s a, inv s → inv (step s a).1)
    {P : σ → α → Prop} {Q : β → Prop} (h : ∀ s a, inv s → ((∀ b ∈ (step s a).2, Q b) ↔ P s a))
    {s : σ} (hs : inv s) (word : List α) :
    (∀ b ∈ (run step s word).2, Q b) ↔ Along step P s word :=
  forall_output_iff_while step (R := fun _ => True) (fun s a hs _ => hinv s a hs)
    (fun s a hs _ => h s a hs) hs fun _ _ => trivial

/-- What holds of the outputs of each step holds of the outputs of the run. -/
theorem forall_output_iff {P : σ → α → Prop} {Q : β → Prop}
    (h : ∀ s a, (∀ b ∈ (step s a).2, Q b) ↔ P s a) (s : σ) (word : List α) :
    (∀ b ∈ (run step s word).2, Q b) ↔ Along step P s word :=
  forall_output_iff_of_inv step (fun _ => True) (fun _ _ _ => trivial) (fun s a _ => h s a)
    trivial word

end Transducer

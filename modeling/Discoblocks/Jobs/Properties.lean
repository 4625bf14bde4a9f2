import Discoblocks.Jobs.Render
import Discoblocks.Metrics

/-!
# Host jobs: the script reads back

The script a host job runs is re-indented into the literal block of its manifest's `command`,
whose indentation the YAML scanner takes from the block's first non-empty line. The two are
inverse (`scanLiteral_reindent`) when that line is the script's own first non-empty line starting
at its first column (`startsFlush`): every line then sits at the block's indentation, and the
next line of the manifest, indented less, ends the block. A driver's pre-command that starts with
a blank breaks this: the block's indentation is then the wider one, and the block ends after its
first line (`renderMountJob_blank_pre`).

The metrics service has only double-quoted values, and reads back with them
(`renderMetricsService_read_back`).
-/

namespace Discoblocks.Jobs

/-- The text's first character that is not a line break is neither a space nor a tab. -/
def startsFlush : List Char → Bool
  | [] => false
  | c :: s => if c = '\n' then startsFlush s else c ≠ ' ' && c ≠ '\t'

theorem startsFlush_append {s : List Char} (h : startsFlush s = true) (rest : List Char) :
    startsFlush (s ++ rest) = true := by
  induction s with
  | nil => cases h
  | cons c s ih =>
    by_cases hc : c = '\n'
    · simp only [startsFlush, hc, if_true] at h
      rw [List.cons_append]
      simpa only [startsFlush, hc, if_true] using ih h
    · simpa only [List.cons_append, startsFlush, hc, if_false] using h

/-! ## The literal block of the script -/

section Block

variable {k : Nat} {t : Char} {more : List Char}

/-- The manifest's line after the script: indented less than the script, and not empty. -/
structure EndsBlock (k : Nat) (t : Char) : Prop where
  indented : k < 10
  char : literalChar t = true
  not_break : t ≠ '\n'
  not_space : t ≠ ' '
  not_tab : t ≠ '\t'

variable (he : EndsBlock k t)
include he

/-- After a content line, the line after the script ends the block. -/
theorem scanLiteralFrom_last_line {st : LiteralState} (hl : st.inLine = true) (hi : st.indent = 10) :
    scanLiteralFrom 8 st ('\n' :: (List.replicate k ' ' ++ t :: more)) =
      .ok (st.value ++ ['\n'], '\n' :: (List.replicate k ' ' ++ t :: more)) := by
  rw [scanLiteralFrom_line_break hl, scanLiteralFrom_spaces rfl k (.inr (by simp [hi, he.1.le])),
    scanLiteralFrom_end rfl he.2 he.3 he.4 he.5 (by simp [LiteralState.detect, hi]; have := he.1; omega)]
  rfl

/-- Once the block's indentation is detected as the script's, the rest of the script reads back,
from inside a content line or from the start of a line after a break. -/
theorem scanLiteralFrom_reindent (S : List Char) (hS : ∀ c ∈ S, literalChar c = true)
    (hlast : S.getLast? ≠ some '\n') :
    (∀ st : LiteralState, st.inLine = true → st.indent = 10 → st.trailingBreaks = [] →
      scanLiteralFrom 8 st (reindent S ++ '\n' :: (List.replicate k ' ' ++ t :: more)) =
        .ok (st.value ++ S ++ ['\n'], '\n' :: (List.replicate k ' ' ++ t :: more))) ∧
    (S ≠ [] → ∀ st : LiteralState, st.inLine = false → st.indent = 10 → st.col = 10 →
      scanLiteralFrom 8 st (reindent S ++ '\n' :: (List.replicate k ' ' ++ t :: more)) =
        .ok (st.value ++ st.leadingBreak ++ st.trailingBreaks ++ S ++ ['\n'],
          '\n' :: (List.replicate k ' ' ++ t :: more))) := by
  induction S with
  | nil =>
    refine ⟨fun st hl hi _ => ?_, fun h => absurd rfl h⟩
    rw [List.append_nil]
    exact scanLiteralFrom_last_line he hl hi
  | cons d S ih =>
    have hd := hS d (List.mem_cons_self _ _)
    have hlast' : S.getLast? ≠ some '\n' := by
      cases S with
      | nil => simp
      | cons e S => simpa [List.getLast?_cons_cons] using hlast
    obtain ⟨ihl, ihb⟩ := ih (fun c hc => hS c (List.mem_cons_of_mem _ hc)) hlast'
    by_cases hdn : d = '\n'
    · subst hdn
      have hne : S ≠ [] := by rintro rfl; exact hlast rfl
      have hre : reindent ('\n' :: S) = '\n' :: (List.replicate 10 ' ' ++ reindent S) := rfl
      refine ⟨fun st hl hi htb => ?_, fun _ st hl hi hcol => ?_⟩
      · rw [hre, List.cons_append, List.append_assoc, scanLiteralFrom_line_break hl,
          scanLiteralFrom_spaces rfl 10 (.inr (by simp [hi])), ihb hne]
        · simp [htb]
        all_goals simp [hi]
      · rw [hre, List.cons_append, List.append_assoc, scanLiteralFrom_break hl,
          scanLiteralFrom_spaces _ 10 _, ihb hne]
        · simp
        all_goals simp [hl, hi]
    · have hre : reindent (d :: S) = d :: reindent S := by simp [reindent, hdn]
      refine ⟨fun st hl hi htb => ?_, fun _ st hl hi hcol => ?_⟩
      · rw [hre, List.cons_append, scanLiteralFrom_line_char hl hd hdn, ihl]
        · simp
        all_goals simp [hl, hi, htb]
      · have hin : st.inIndent = false := by simp [LiteralState.inIndent, hi, hcol]
        rw [hre, List.cons_append, scanLiteralFrom_content hl hd hdn (.inl hin)
          (by simp [LiteralState.detect, hi, hcol]), ihl]
        · simp
        all_goals simp [LiteralState.detect, hi]

/-- The re-indented script, in the block after `- |` at the script's column, reads back with one
final line break, and the block ends before the manifest's next line. -/
theorem scanLiteral_reindent {S : List Char} (hS : ∀ c ∈ S, literalChar c = true)
    (hflush : startsFlush S = true) (hlast : S.getLast? ≠ some '\n') :
    scanLiteral 8 10 (reindent S ++ '\n' :: (List.replicate k ' ' ++ t :: more)) =
      .ok (S ++ ['\n'], '\n' :: (List.replicate k ' ' ++ t :: more)) := by
  suffices h : ∀ mx tb pend, mx ≤ 10 →
      scanLiteralFrom 8 ⟨0, 10, mx, false, [], [], tb, pend⟩
        (reindent S ++ '\n' :: (List.replicate k ' ' ++ t :: more)) =
        .ok (tb ++ S ++ ['\n'], '\n' :: (List.replicate k ' ' ++ t :: more)) from
    h 0 [] [] (Nat.zero_le _)
  induction S with
  | nil => cases hflush
  | cons d S ih =>
    intro mx tb pend hmx
    have hd := hS d (List.mem_cons_self _ _)
    by_cases hdn : d = '\n'
    · subst hdn
      have hne : S ≠ [] := by rintro rfl; exact hlast rfl
      have hlast' : S.getLast? ≠ some '\n' := by
        obtain ⟨e, S, rfl⟩ := List.exists_cons_of_ne_nil hne
        simpa [List.getLast?_cons_cons] using hlast
      have hre : reindent ('\n' :: S) = '\n' :: (List.replicate 10 ' ' ++ reindent S) := rfl
      simp only [startsFlush, if_true] at hflush
      rw [hre, List.cons_append, List.append_assoc, scanLiteralFrom_break rfl,
        scanLiteralFrom_spaces rfl 10 (.inl rfl)]
      simpa [Nat.max_eq_right hmx] using
        ih (fun c hc => hS c (List.mem_cons_of_mem _ hc)) hflush hlast' 10 (tb ++ ['\n'])
          (pend ++ ['\n'] ++ List.replicate 10 ' ') le_rfl
    · have hre : reindent (d :: S) = d :: reindent S := by simp [reindent, hdn]
      simp only [startsFlush, hdn, if_false, Bool.and_eq_true, decide_eq_true_eq] at hflush
      have hlast' : S.getLast? ≠ some '\n' := by
        cases S with
        | nil => simp
        | cons e S => simpa [List.getLast?_cons_cons] using hlast
      rw [hre, List.cons_append, scanLiteralFrom_content rfl hd hdn (.inr hflush)
        (by simp [LiteralState.detect, hmx]),
        (scanLiteralFrom_reindent he S (fun c hc => hS c (List.mem_cons_of_mem _ hc)) hlast').1]
      · simp
      all_goals simp [LiteralState.detect, hmx]

/-- The re-indented script reads back from the block before a line that ends it. -/
theorem reads_literal {S : List Char} (hS : ∀ c ∈ S, literalChar c = true)
    (hflush : startsFlush S = true) (hlast : S.getLast? ≠ some '\n') :
    Reads (.literal 8 10, '\n' :: (List.replicate k ' ' ++ t :: more)) (reindent S) (S ++ ['\n']) := by
  intro tail
  simp only [Style.scan, List.cons_append, List.append_assoc]
  exact scanLiteral_reindent he hS hflush hlast

end Block

/-! ## The scripts -/

/-- A pre-command the jobs run as the script's first line: characters that stand for themselves in
a literal block, and empty or with its first non-empty line flush. -/
def FlushCommand (pre : List Char) : Prop :=
  (∀ c ∈ pre, literalChar c = true) ∧ (pre = [] ∨ startsFlush pre = true)

/-- A script that reads back from the job's literal block. -/
structure BlockScript (S : List Char) : Prop where
  chars : ∀ c ∈ S, literalChar c = true
  flush : startsFlush S = true
  last : S.getLast? ≠ some '\n'

set_option maxRecDepth 4000 in
theorem mountTemplates_chars : (mknodMountTemplate ++ bindMountTemplate).all literalChar = true := by
  decide

/-- A script made of a pre-command and a template whose text after the pre-command starts flush
and ends its last line with a character. -/
theorem block_of_template {pre body : List Char} (h : FlushCommand pre)
    (hchars : body.all literalChar = true) (hflush : startsFlush body = true)
    (hlast : body.getLast? ≠ none ∧ body.getLast? ≠ some '\n') :
    BlockScript (preCommand pre ++ body) := by
  obtain ⟨hpre, hpre'⟩ := h
  refine ⟨fun c hc => ?_, ?_, ?_⟩
  · rcases List.mem_append.1 hc with hc | hc
    · unfold preCommand at hc
      split at hc
      · cases hc
      · rcases List.mem_append.1 hc with hc | hc
        · exact hpre c hc
        · exact List.all_eq_true.1 (by decide) c hc
    · exact List.all_eq_true.1 hchars c hc
  · rcases hpre' with rfl | hf
    · simpa [preCommand] using hflush
    · by_cases hp : pre = []
      · simpa [preCommand, hp] using hflush
      · simp only [preCommand, hp, if_false, List.append_assoc]
        exact startsFlush_append hf _
  · obtain ⟨c, hc⟩ := Option.ne_none_iff_exists'.1 hlast.1
    rw [List.getLast?_append, hc]
    simpa [hc] using hlast.2

set_option maxRecDepth 4000 in
/-- `mountCommandTemplate` starts with its verb, its text after the pre-command starts flush, and it
ends with `echo ok`. -/
theorem mountCommandTemplate_eq : ∃ p1 p2, mountCommandTemplate = [[], p1, p2] ∧
    (p1 ++ p2).all literalChar = true ∧ startsFlush p1 = true ∧ p2.getLast? = some 'k' :=
  ⟨_, _, rfl, by decide, by decide, rfl⟩

set_option maxRecDepth 4000 in
/-- `resizeCommandTemplate` starts with its verb, its text after it starts flush, and it ends
with `echo ok`. -/
theorem resizeCommandTemplate_eq : ∃ p1, resizeCommandTemplate = [[], p1] ∧
    p1.all literalChar = true ∧ startsFlush p1 = true ∧ p1.getLast? = some 'k' :=
  ⟨_, rfl, by decide, by decide, rfl⟩

theorem mountScript_block {pre : List Char} (h : FlushCommand pre) (hostPID : Bool) :
    BlockScript (mountScript pre hostPID) := by
  obtain ⟨p1, p2, hm, hchars, hflush, hlast⟩ := mountCommandTemplate_eq
  have hs : mountScript pre hostPID = preCommand pre ++
      (p1 ++ (if hostPID then bindMountTemplate else mknodMountTemplate) ++ p2) := by
    rw [mountScript, hm]
    rfl
  have hb := mountTemplates_chars
  simp only [List.all_append, Bool.and_eq_true] at hchars hb
  rw [hs]
  refine block_of_template h ?_ (by rw [List.append_assoc]; exact startsFlush_append hflush _)
    (by simp [hlast])
  cases hostPID <;> simp [hchars, hb]

theorem resizeScript_block {pre : List Char} (h : FlushCommand pre) :
    BlockScript (resizeScript pre) := by
  obtain ⟨p1, hr, hchars, hflush, hlast⟩ := resizeCommandTemplate_eq
  have hs : resizeScript pre = preCommand pre ++ p1 := by
    rw [resizeScript, hr]
    rfl
  rw [hs]
  exact block_of_template h hchars hflush (by simp [hlast])

/-! ## The jobs -/

/-- The line after the script in `hostJobTemplate`. -/
theorem endsBlock_volumeMounts : EndsBlock 8 'v' := ⟨by decide, rfl, by decide, by decide, by decide⟩

/-- A manifest of `hostJobTemplate` whose values are quotable and whose script reads back is read
as the job of those values. -/
theorem unmarshalHostJob_render {name ns nodeName mountPoint containerIDs pvcName pvName fs
    volumeMeta S : List Char}
    (hq : ∀ v ∈ [name, ns, nodeName, mountPoint, containerIDs, pvcName, pvName, fs, volumeMeta],
      ∀ c ∈ v, quotable c = true) (hS : BlockScript S) :
    unmarshalHostJob (hostJobTemplate.render [name, ns, nodeName, mountPoint, containerIDs, pvcName,
        pvName, fs, volumeMeta, reindent S]) =
      .ok ⟨⟨name⟩, ⟨ns⟩, ⟨nodeName⟩, [("MOUNT_POINT", ⟨mountPoint⟩), ("CONTAINER_IDS", ⟨containerIDs⟩),
        ("PVC_NAME", ⟨pvcName⟩), ("PV_NAME", ⟨pvName⟩), ("FS", ⟨fs⟩),
        ("VOLUME_ATTACHMENT_META", ⟨volumeMeta⟩)], ["bash", "-exc", ⟨S ++ ['\n']⟩]⟩ := by
  simp only [List.mem_cons, List.not_mem_nil, or_false, forall_eq_or_imp, forall_eq] at hq
  obtain ⟨h1, h2, h3, h4, h5, h6, h7, h8, h9⟩ := hq
  have hf : List.Forall₂ (fun hole a => Reads hole a.1 a.2) hostJobTemplate.holes
      [(name, name), (ns, ns), (nodeName, nodeName), (mountPoint, mountPoint),
        (containerIDs, containerIDs), (pvcName, pvcName), (pvName, pvName), (fs, fs),
        (volumeMeta, volumeMeta), (reindent S, S ++ ['\n'])] :=
    .cons (reads_doubleQuoted h1 rfl) <| .cons (reads_doubleQuoted h2 rfl) <|
    .cons (reads_doubleQuoted h3 rfl) <| .cons (reads_doubleQuoted h4 rfl) <|
    .cons (reads_doubleQuoted h5 rfl) <| .cons (reads_doubleQuoted h6 rfl) <|
    .cons (reads_doubleQuoted h7 rfl) <| .cons (reads_doubleQuoted h8 rfl) <|
    .cons (reads_doubleQuoted h9 rfl) <|
    .cons (reads_literal endsBlock_volumeMounts hS.chars hS.flush hS.last) .nil
  have hr : hostJobTemplate.read (hostJobTemplate.render [name, ns, nodeName, mountPoint,
      containerIDs, pvcName, pvName, fs, volumeMeta, reindent S]) =
      .ok [name, ns, nodeName, mountPoint, containerIDs, pvcName, pvName, fs, volumeMeta,
        S ++ ['\n']] :=
    Template.read_render hf hostJobTemplate.head
  rw [unmarshalHostJob, hr]

/-- For values that double-quoted scalars keep and a driver pre-command whose first non-empty line
is flush, the mount and resize jobs read back from their manifests: the name, namespace, node and
environment are the parameters, and the command runs the script, with one final line break. -/
theorem renderJobs_read_back {H : Helpers} {now₁ now₂ : Int}
    {pvcName pvName ns nodeName fs mountPoint volumeMeta jobName₁ jobName₂ : String}
    {containerIDs : List String} {pre : String} {hostPID : Bool}
    (hname₁ : H.renderResourceName true [toString now₁, pvcName, ns] = .ok jobName₁)
    (hname₂ : H.renderResourceName true [toString now₂, pvcName, ns] = .ok jobName₂)
    (hq : ∀ v ∈ [jobName₁, jobName₂, ns, nodeName, mountPoint, " ".intercalate containerIDs,
      pvcName, pvName, fs, volumeMeta], ∀ c ∈ v.data, quotable c = true)
    (hpre : FlushCommand pre.data) :
    renderMountJob H now₁ pvcName pvName ns nodeName fs mountPoint containerIDs pre hostPID
        volumeMeta =
      .ok ⟨jobName₁, ns, nodeName, [("MOUNT_POINT", mountPoint),
        ("CONTAINER_IDS", " ".intercalate containerIDs), ("PVC_NAME", pvcName),
        ("PV_NAME", pvName), ("FS", fs), ("VOLUME_ATTACHMENT_META", volumeMeta)],
        ["bash", "-exc", ⟨mountScript pre.data hostPID ++ ['\n']⟩]⟩ ∧
    renderResizeJob H now₂ pvcName pvName ns nodeName fs pre volumeMeta =
      .ok ⟨jobName₂, ns, nodeName, [("MOUNT_POINT", ""), ("CONTAINER_IDS", ""),
        ("PVC_NAME", pvcName), ("PV_NAME", pvName), ("FS", fs),
        ("VOLUME_ATTACHMENT_META", volumeMeta)],
        ["bash", "-exc", ⟨resizeScript pre.data ++ ['\n']⟩]⟩ := by
  simp only [List.mem_cons, List.not_mem_nil, or_false, forall_eq_or_imp, forall_eq] at hq
  obtain ⟨h1, h2, h3, h4, h5, h6, h7, h8, h9, h10⟩ := hq
  constructor
  · simp only [renderMountJob, hname₁]
    rw [unmarshalHostJob_render (by simp only [List.mem_cons, List.not_mem_nil, or_false,
      forall_eq_or_imp, forall_eq]; exact ⟨h1, h3, h4, h5, h6, h7, h8, h9, h10⟩)
      (mountScript_block hpre hostPID)]
  · have hq₂ : ∀ v ∈ [jobName₂.data, ns.data, nodeName.data, [], [], pvcName.data, pvName.data,
        fs.data, volumeMeta.data], ∀ c ∈ v, quotable c = true := by
      simp only [List.mem_cons, List.not_mem_nil, or_false, forall_eq_or_imp, forall_eq,
        IsEmpty.forall_iff, implies_true, true_and]
      exact ⟨h2, h3, h4, h7, h8, h9, h10⟩
    simp only [renderResizeJob, hname₂]
    rw [unmarshalHostJob_render hq₂ (resizeScript_block hpre)]

theorem renderJobs_read_back_ebs :
    Helpers.spec.renderResourceName true [toString (1 : Int), "pvc", "default"] =
        .ok "1-pvc-default" ∧
      Helpers.spec.renderResourceName true [toString (2 : Int), "pvc", "default"] =
        .ok "2-pvc-default" ∧
      FlushCommand "modprobe ext4".data ∧
      renderMountJob Helpers.spec 1 "pvc" "pv" "default" "node" "ext4" "/data" ["c1", "c2"]
          "modprobe ext4" false "meta" =
        .ok ⟨"1-pvc-default", "default", "node", [("MOUNT_POINT", "/data"),
          ("CONTAINER_IDS", " ".intercalate ["c1", "c2"]), ("PVC_NAME", "pvc"), ("PV_NAME", "pv"),
          ("FS", "ext4"), ("VOLUME_ATTACHMENT_META", "meta")],
          ["bash", "-exc", ⟨mountScript "modprobe ext4".data false ++ ['\n']⟩]⟩ ∧
      renderResizeJob Helpers.spec 2 "pvc" "pv" "default" "node" "ext4" "modprobe ext4" "meta" =
        .ok ⟨"2-pvc-default", "default", "node", [("MOUNT_POINT", ""), ("CONTAINER_IDS", ""),
          ("PVC_NAME", "pvc"), ("PV_NAME", "pv"), ("FS", "ext4"), ("VOLUME_ATTACHMENT_META", "meta")],
          ["bash", "-exc", ⟨resizeScript "modprobe ext4".data ++ ['\n']⟩]⟩ := by
  have hq : ∀ v ∈ ["1-pvc-default", "2-pvc-default", "default", "node", "/data",
      " ".intercalate ["c1", "c2"], "pvc", "pv", "ext4", "meta"], ∀ c ∈ v.data, quotable c = true := by
    decide
  have hpre : FlushCommand "modprobe ext4".data := ⟨by decide, .inr rfl⟩
  exact ⟨rfl, rfl, hpre, renderJobs_read_back rfl rfl hq hpre⟩

set_option maxRecDepth 20000 in
/-- A pre-command that starts with a blank: the script's first line makes the block's indentation
one column wider, the block ends after that line, and the manifest does not read. -/
theorem renderMountJob_blank_pre :
    renderMountJob Helpers.spec 1 "pvc" "pv" "default" "node" "ext4" "/data" ["c1"] " x" true
      "meta" = .error "unable to unmarshal job: did not find the fixed text of the manifest" := by
  rfl

/-! ## The metrics service -/

/-- For a name and namespace that double-quoted scalars keep, the metrics service reads back with
them. -/
theorem renderMetricsService_read_back {name ns : String}
    (hq : ∀ v ∈ [name, ns], ∀ c ∈ v.data, quotable c = true) :
    renderMetricsService name ns = .ok ⟨name, ns⟩ := by
  simp only [List.mem_cons, List.not_mem_nil, or_false, forall_eq_or_imp, forall_eq] at hq
  have hf : List.Forall₂ (fun hole a => Reads hole a.1 a.2) metricsServiceTemplate.holes
      [(name.data, name.data), (ns.data, ns.data)] :=
    .cons (reads_doubleQuoted hq.1 rfl) <| .cons (reads_doubleQuoted hq.2 rfl) .nil
  have hr : metricsServiceTemplate.read (metricsServiceTemplate.render [name.data, ns.data]) =
      .ok [name.data, ns.data] :=
    Template.read_render hf metricsServiceTemplate.head
  unfold renderMetricsService unmarshalMetricsService
  rw [hr]

theorem renderMetricsService_read_back_sample :
    (∀ v ∈ ["discoblocks-metrics", "default"], ∀ c ∈ v.data, quotable c = true) ∧
      renderMetricsService "discoblocks-metrics" "default" =
        .ok ⟨"discoblocks-metrics", "default"⟩ :=
  have hq : ∀ v ∈ ["discoblocks-metrics", "default"], ∀ c ∈ v.data, quotable c = true := by
    decide
  ⟨hq, renderMetricsService_read_back hq⟩

end Discoblocks.Jobs

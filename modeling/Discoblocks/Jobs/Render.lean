import Discoblocks.Basic
import Discoblocks.Jobs.Yaml

/-!
# The manifests of `pkg/utils/kube.go`: jobs and the metrics service

The jobs that mount a claim into the containers of a node and grow its file system run a bash
script on the node. The script is a template filled with the driver's pre-command, its line
breaks re-indented (`hostCommandReplacePattern`, `hostCommandPrefix`) to sit in the literal block
of the manifest's `command`; the manifest is `hostJobTemplate` filled with the job's name, its
namespace, the node, the script's environment and the script; the job is what `yaml.Unmarshal`
reads from it. A format string with only `%s` verbs is the list of its pieces between the verbs.

`RenderAttachJob` pins its job to a node by a node affinity, the form `GetTargetNodeByAffinity`
reads; the job keeps the affinity's one scalar, the node. `RenderMetricsService` fills the name
and namespace of a service.

`Template.read_render` reads a rendered template back when each scalar reads back before the
fixed text after it.
-/

namespace Discoblocks.Jobs

/-! ## Format strings -/

/-- `fmt.Sprintf` of a format whose verbs are all `%s`, given as its pieces between the verbs. A
verb with no argument prints `%!s(MISSING)`; the calls of the source pass one argument per verb. -/
def sprintf : List (List Char) → List (List Char) → List Char
  | [], _ => []
  | [p], _ => p
  | p :: q :: ps, args => p ++ args.headD "%!s(MISSING)".toList ++ sprintf (q :: ps) args.tail

/-- A manifest template filled by `fmt.Sprintf`, one argument per `%s`. -/
def Template.render (t : Template) (args : List (List Char)) : List Char :=
  sprintf (t.head :: t.holes.map (·.2)) args

/-- `hostCommandPrefix`: a line break and the indentation of the script's lines in the manifest. -/
def hostCommandPrefix : List Char := "\n          ".toList

/-- `hostCommandReplacePattern.ReplaceAll(s, hostCommandPrefix)`: every line break replaced by
`hostCommandPrefix`. -/
def reindent : List Char → List Char
  | [] => []
  | c :: s => (if c = '\n' then hostCommandPrefix else [c]) ++ reindent s

/-! ## The templates of `pkg/utils/kube.go` -/

/-- `hostJobTemplate`. Its `%s` are in double-quoted scalars but the last, the line after `- |` at
column 10, in the sequence of `command`, which stands at the column of its key: the block around
the script's scalar is indented by 8. -/
def hostJobTemplate : Template where
  head := "apiVersion: batch/v1\nkind: Job\nmetadata:\n  name: \"".toList
  holes := [
    (.doubleQuoted, "\"\n  namespace: \"".toList),
    (.doubleQuoted, ("\"\n  labels:\n    app: discoblocks\nspec:\n  template:\n    spec:\n"
      ++ "      hostPID: true\n      nodeName: \"").toList),
    (.doubleQuoted, ("\"\n      containers:\n      - name: mount\n"
      ++ "        image: nixery.dev/shell/gawk/gnugrep/gnused/coreutils-full/cri-tools/docker-client\n"
      ++ "        env:\n        - name: MOUNT_POINT\n          value: \"").toList),
    (.doubleQuoted, "\"\n        - name: CONTAINER_IDS\n          value: \"".toList),
    (.doubleQuoted, "\"\n        - name: PVC_NAME\n          value: \"".toList),
    (.doubleQuoted, "\"\n        - name: PV_NAME\n          value: \"".toList),
    (.doubleQuoted, "\"\n        - name: FS\n          value: \"".toList),
    (.doubleQuoted, "\"\n        - name: VOLUME_ATTACHMENT_META\n          value: \"".toList),
    (.doubleQuoted, "\"\n        command:\n        - bash\n        - -exc\n        - |\n          ".toList),
    (.literal 8 10, ("\n        volumeMounts:\n        - mountPath: /run/containerd/containerd.sock\n"
      ++ "          name: containerd-socket\n          readOnly: true\n"
      ++ "        - mountPath: /var/run/docker.sock\n          name: docker-socket\n"
      ++ "          readOnly: true\n        - mountPath: /host\n          name: host\n"
      ++ "        securityContext:\n          privileged: true\n      restartPolicy: Never\n"
      ++ "      volumes:\n       - hostPath:\n          path: /run/containerd/containerd.sock\n"
      ++ "         name: containerd-socket\n       - hostPath:\n"
      ++ "          path: /var/run/docker.sock\n         name: docker-socket\n"
      ++ "       - hostPath:\n          path: /\n         name: host\n  backoffLimit: 3\n"
      ++ "  ttlSecondsAfterFinished: 86400\n").toList)]

/-- `attachJobTemplate`. Its `%s` are all in double-quoted scalars: the job's name and namespace,
the node of its node affinity, and the claim it mounts. -/
def attachJobTemplate : Template where
  head := "apiVersion: batch/v1\nkind: Job\nmetadata:\n  name: \"".toList
  holes := [
    (.doubleQuoted, "\"\n  namespace: \"".toList),
    (.doubleQuoted, ("\"\n  labels:\n    app: discoblocks\nspec:\n  template:\n    spec:\n"
      ++ "      affinity:\n        nodeAffinity:\n"
      ++ "          requiredDuringSchedulingIgnoredDuringExecution:\n"
      ++ "            nodeSelectorTerms:\n            - matchFields:\n"
      ++ "              - key: metadata.name\n                operator: In\n"
      ++ "                values:\n                - \"").toList),
    (.doubleQuoted, ("\"\n      containers:\n      - name: attach\n"
      ++ "        image: redhat/ubi8-micro@sha256:4f6f8db9a6dc949d9779a57c43954b251957bd4d019a37edbbde8ed5228fe90a\n"
      ++ "        command:\n        - ls\n        - /pvc\n        volumeMounts:\n"
      ++ "        - mountPath: /pvc\n          name: attach\n          readOnly: true\n"
      ++ "      restartPolicy: Never\n      volumes:\n      - name: attach\n"
      ++ "        persistentVolumeClaim:\n          claimName: \"").toList),
    (.doubleQuoted, "\"\n  backoffLimit: 0\n  ttlSecondsAfterFinished: 86400\n".toList)]

/-- `metricsServiceTemplate`. Its `%s` are the double-quoted name and namespace. -/
def metricsServiceTemplate : Template where
  head := "kind: Service\napiVersion: v1\nmetadata:\n  name: \"".toList
  holes := [
    (.doubleQuoted, "\"\n  namespace: \"".toList),
    (.doubleQuoted, ("\"\n  annotations:\n    prometheus.io/path: \"/metrics\"\n"
      ++ "    prometheus.io/scrape: \"true\"\n    prometheus.io/port:   \"9100\"\n"
      ++ "spec:\n  ports:\n  - name: node-exporter\n    protocol: TCP\n    port: 9100\n"
      ++ "    targetPort: 9100\n").toList)]

/-- `mountCommandTemplate`, as its pieces between the verbs. -/
def mountCommandTemplate : List (List Char) :=
  ["".toList,
    ("\n"
      ++ "chroot /host nsenter --target 1 --mount mkdir -p /var/lib/kubelet/plugins/kubernetes.io/csi/pv/$\x7bPV_NAME\x7d/globalmount &&\n"
      ++ "chroot /host nsenter --target 1 --mount mount $\x7bDEV\x7d /var/lib/kubelet/plugins/kubernetes.io/csi/pv/$\x7bPV_NAME\x7d/globalmount &&\n").toList,
    "\necho ok".toList]

/-- `mknodMountTemplate`. -/
def mknodMountTemplate : List Char :=
  ("DEV_MAJOR=$(chroot /host nsenter --target 1 --mount cat /proc/self/mountinfo | grep $\x7bDEV\x7d | awk '\x7bprint $3\x7d'  | awk '\x7bsplit($0,a,\":\"); print a[1]\x7d') &&\n"
    ++ "DEV_MINOR=$(chroot /host nsenter --target 1 --mount cat /proc/self/mountinfo | grep $\x7bDEV\x7d | awk '\x7bprint $3\x7d'  | awk '\x7bsplit($0,a,\":\"); print a[2]\x7d') &&\n"
    ++ "for CONTAINER_ID in $\x7bCONTAINER_IDS\x7d; do\n"
    ++ "\tPID=$(docker inspect -f '\x7b\x7b.State.Pid\x7d\x7d' $\x7bCONTAINER_ID\x7d || crictl inspect --output go-template --template '\x7b\x7b.info.pid\x7d\x7d' $\x7bCONTAINER_ID\x7d) &&\n"
    ++ "\tchroot /host nsenter --target $\x7bPID\x7d --mount mkdir -p /dev $\x7bMOUNT_POINT\x7d &&\n"
    ++ "\tchroot /host nsenter --target $\x7bPID\x7d --pid --mount mknod $\x7bDEV\x7d b $\x7bDEV_MAJOR\x7d $\x7bDEV_MINOR\x7d &&\n"
    ++ "\tchroot /host nsenter --target $\x7bPID\x7d --mount mount $\x7bDEV\x7d $\x7bMOUNT_POINT\x7d\n"
    ++ "done &&").toList

/-- `bindMountTemplate`. -/
def bindMountTemplate : List Char :=
  "chroot /host nsenter --target $\x7bPID\x7d --mount mount -o bind /var/lib/kubelet/plugins/kubernetes.io/csi/pv/$\x7bPV_NAME\x7d/globalmount $\x7bMOUNT_POINT\x7d &&".toList

/-- `resizeCommandTemplate`, as its pieces between the verbs. -/
def resizeCommandTemplate : List (List Char) :=
  ["".toList,
    ("\n(:pvc:pvc\n"
      ++ "\t([ \"$\x7bFS\x7d\" = \"ext3\" ] && chroot /host nsenter --target 1 --mount resize2fs $\x7bDEV\x7d) ||\n"
      ++ "\t([ \"$\x7bFS\x7d\" = \"ext4\" ] && chroot /host nsenter --target 1 --mount resize2fs $\x7bDEV\x7d) ||\n"
      ++ "\t([ \"$\x7bFS\x7d\" = \"xfs\" ] && chroot /host nsenter --target 1 --mount xfs_growfs -d $\x7bDEV\x7d) ||\n"
      ++ "\t([ \"$\x7bFS\x7d\" = \"btrfs\" ] && chroot /host nsenter --target 1 --mount btrfs filesystem resize max $\x7bDEV\x7d) ||\n"
      ++ "\techo unsupported file-system $FS\n) &&\necho ok").toList]

/-! ## The jobs -/

/-- The driver's pre-command as the script's first piece: followed by ` && ` unless it is empty. -/
def preCommand (pre : List Char) : List Char :=
  if pre = [] then [] else pre ++ " && ".toList

/-- The script `RenderMountJob` runs, before its line breaks are re-indented: the pre-command, then
the bind mount of the volume's global mount point when the job shares the host's process
namespace (`hostPID`), a new device node in each container otherwise. -/
def mountScript (preMountCommand : List Char) (hostPID : Bool) : List Char :=
  sprintf mountCommandTemplate
    [preCommand preMountCommand, if hostPID then bindMountTemplate else mknodMountTemplate]

/-- The script `RenderResizeJob` runs, before its line breaks are re-indented. -/
def resizeScript (preResizeCommand : List Char) : List Char :=
  sprintf resizeCommandTemplate [preCommand preResizeCommand]

/-- The fields of a host job that its parameters reach. -/
structure HostJob where
  name : String
  ns : String
  nodeName : String
  env : List (String × String)
  command : List String
  deriving DecidableEq, Repr

/-- `yaml.Unmarshal` of a manifest of `hostJobTemplate` into a job: the fields whose values its
scalars are. -/
def unmarshalHostJob (text : List Char) : Except String HostJob :=
  match hostJobTemplate.read text with
  | .ok [name, ns, nodeName, mountPoint, containerIDs, pvcName, pvName, fs, volumeMeta, script] =>
    .ok { name := ⟨name⟩, ns := ⟨ns⟩, nodeName := ⟨nodeName⟩
          env := [("MOUNT_POINT", ⟨mountPoint⟩), ("CONTAINER_IDS", ⟨containerIDs⟩),
            ("PVC_NAME", ⟨pvcName⟩), ("PV_NAME", ⟨pvName⟩), ("FS", ⟨fs⟩),
            ("VOLUME_ATTACHMENT_META", ⟨volumeMeta⟩)]
          command := ["bash", "-exc", ⟨script⟩] }
  | .ok _ => .error "a scalar is missing"
  | .error e => .error e

/-- `RenderMountJob`, its job named by `RenderResourceName` from the time `now` in nanoseconds.
(The owner reference it sets on the job is not modelled.) -/
def renderMountJob (H : Helpers) (now : Int) (pvcName pvName ns nodeName fs mountPoint : String)
    (containerIDs : List String) (preMountCommand : String) (hostPID : Bool) (volumeMeta : String) :
    Except String HostJob :=
  let mountCommand := reindent (mountScript preMountCommand.data hostPID)
  match H.renderResourceName true [toString now, pvcName, ns] with
  | .error e => .error ("unable to render resource name: " ++ e)
  | .ok jobName =>
    let template := hostJobTemplate.render [jobName.data, ns.data, nodeName.data,
      mountPoint.data, (" ".intercalate containerIDs).data, pvcName.data, pvName.data, fs.data,
      volumeMeta.data, mountCommand]
    match unmarshalHostJob template with
    | .error e => .error ("unable to unmarshal job: " ++ e)
    | .ok job => .ok job

/-- `RenderResizeJob`: the manifest of `RenderMountJob` with no mount point and no containers,
running the resize script. -/
def renderResizeJob (H : Helpers) (now : Int) (pvcName pvName ns nodeName fs : String)
    (preResizeCommand volumeMeta : String) : Except String HostJob :=
  let resizeCommand := reindent (resizeScript preResizeCommand.data)
  match H.renderResourceName true [toString now, pvcName, ns] with
  | .error e => .error ("unable to render resource name: " ++ e)
  | .ok jobName =>
    let template := hostJobTemplate.render [jobName.data, ns.data, nodeName.data, [], [],
      pvcName.data, pvName.data, fs.data, volumeMeta.data, resizeCommand]
    match unmarshalHostJob template with
    | .error e => .error ("unable to unmarshal job: " ++ e)
    | .ok job => .ok job

/-! ## Node affinity -/

/-- `corev1.NodeSelectorRequirement`. -/
structure NodeSelectorRequirement where
  key : String
  operator : String
  values : List String
  deriving DecidableEq, Repr

/-- `corev1.NodeSelectorTerm`, down to the field `GetTargetNodeByAffinity` reads. -/
structure NodeSelectorTerm where
  matchFields : List NodeSelectorRequirement
  deriving DecidableEq, Repr

/-- `corev1.NodeSelector`. -/
structure NodeSelector where
  nodeSelectorTerms : List NodeSelectorTerm
  deriving DecidableEq, Repr

/-- `corev1.NodeAffinity`, down to its required selector; `none` is a nil pointer. -/
structure NodeAffinity where
  requiredDuringSchedulingIgnoredDuringExecution : Option NodeSelector
  deriving DecidableEq, Repr

/-- `corev1.Affinity`, down to its node affinity; `none` is a nil pointer. -/
structure Affinity where
  nodeAffinity : Option NodeAffinity
  deriving DecidableEq, Repr

/-- The inner loop of `GetTargetNodeByAffinity`, over a term's `MatchFields`: the first value of
the first requirement `metadata.name In` with a value, if there is one. -/
def targetNodeOfFields : List NodeSelectorRequirement → Option String
  | [] => none
  | mf :: mfs =>
    if h : mf.key = "metadata.name" ∧ mf.operator = "In" ∧ 0 < mf.values.length then
      some (mf.values.get ⟨0, h.2.2⟩)
    else targetNodeOfFields mfs

/-- The outer loop of `GetTargetNodeByAffinity`, over the terms. -/
def targetNodeOfTerms : List NodeSelectorTerm → Option String
  | [] => none
  | term :: terms => (targetNodeOfFields term.matchFields).orElse fun _ => targetNodeOfTerms terms

/-- `GetTargetNodeByAffinity`: `""` when a pointer on the way to the required terms is nil or no
requirement pins a node. -/
def getTargetNodeByAffinity (affinit : Option Affinity) : String :=
  match affinit with
  | some ⟨some ⟨some selector⟩⟩ => (targetNodeOfTerms selector.nodeSelectorTerms).getD ""
  | _ => ""

/-! ## The attach job and the metrics service -/

/-- The fields of the attach job that its parameters reach. -/
structure AttachJob where
  name : String
  ns : String
  /-- The value of the `metadata.name In` requirement of the job's node affinity: the affinity
  block's one scalar; the rest of the block is the manifest's fixed text. -/
  nodeName : String
  claimName : String
  deriving DecidableEq, Repr

/-- `yaml.Unmarshal` of a manifest of `attachJobTemplate` into a job. -/
def unmarshalAttachJob (text : List Char) : Except String AttachJob :=
  match attachJobTemplate.read text with
  | .ok [name, ns, nodeName, pvcName] =>
    .ok { name := ⟨name⟩, ns := ⟨ns⟩, nodeName := ⟨nodeName⟩, claimName := ⟨pvcName⟩ }
  | .ok _ => .error "a scalar is missing"
  | .error e => .error e

/-- `RenderAttachJob`, its job named as `RenderMountJob` names its job. (The owner reference it
sets on the job is not modelled.) -/
def renderAttachJob (H : Helpers) (now : Int) (pvcName ns nodeName : String) :
    Except String AttachJob :=
  match H.renderResourceName true [toString now, pvcName, ns] with
  | .error e => .error ("unable to render resource name: " ++ e)
  | .ok jobName =>
    let template := attachJobTemplate.render [jobName.data, ns.data, nodeName.data, pvcName.data]
    match unmarshalAttachJob template with
    | .error e => .error ("unable to unmarshal job: " ++ e)
    | .ok job => .ok job

/-- The fields of the metrics service that its parameters reach. -/
structure MetricsService where
  name : String
  ns : String
  deriving DecidableEq, Repr

/-- `yaml.Unmarshal` of a manifest of `metricsServiceTemplate` into a service. -/
def unmarshalMetricsService (text : List Char) : Except String MetricsService :=
  match metricsServiceTemplate.read text with
  | .ok [name, ns] => .ok ⟨⟨name⟩, ⟨ns⟩⟩
  | .ok _ => .error "a scalar is missing"
  | .error e => .error e

/-- `RenderMetricsService`. -/
def renderMetricsService (name ns : String) : Except String MetricsService :=
  match unmarshalMetricsService (metricsServiceTemplate.render [name.data, ns.data]) with
  | .error e => .error ("unable to unmarshal service: " ++ e)
  | .ok service => .ok service

/-! ## Reading a rendered template back -/

theorem expect_append (fixed rest : List Char) : expect fixed (fixed ++ rest) = .ok rest := by
  simp [expect, List.isPrefixOf_iff_prefix]

theorem sprintf_cons_cons (p q : List Char) (ps : List (List Char)) (a : List Char)
    (args : List (List Char)) : sprintf (p :: q :: ps) (a :: args) = p ++ a ++ sprintf (q :: ps) args :=
  rfl

theorem sprintf_cons (p : List Char) (ps args : List (List Char)) :
    ∃ rest, sprintf (p :: ps) args = p ++ rest := by
  cases ps with
  | nil => exact ⟨[], (List.append_nil p).symm⟩
  | cons q ps => exact ⟨_, List.append_assoc _ _ _⟩

/-- The scalar of a template's hole, written as `arg` before the hole's fixed text, reads as `val`
and ends before that text, whatever follows. -/
def Reads (hole : Style × List Char) (arg val : List Char) : Prop :=
  ∀ tail, hole.1.scan (arg ++ hole.2 ++ tail) = .ok (val, hole.2 ++ tail)

/-- A template filled with arguments whose scalars read back is read as their values. -/
theorem Template.read_render {holes : List (Style × List Char)}
    {scalars : List (List Char × List Char)}
    (h : List.Forall₂ (fun hole a => Reads hole a.1 a.2) holes scalars) (head : List Char) :
    Template.read ⟨head, holes⟩ (Template.render ⟨head, holes⟩ (scalars.map (·.1))) =
      .ok (scalars.map (·.2)) := by
  induction h generalizing head with
  | nil =>
    have : Template.render ⟨head, []⟩ [] = head ++ [] := (List.append_nil head).symm
    simp only [Template.read, List.map_nil, this, expect_append]
    rfl
  | @cons hole a holes scalars hr _ ih =>
    obtain ⟨style, fixed⟩ := hole
    obtain ⟨rest, hrest⟩ := sprintf_cons fixed (holes.map (·.2)) (scalars.map (·.1))
    have hih := ih fixed
    simp only [Template.read, Template.render, hrest, expect_append] at hih
    simp only [Template.read, Template.render, List.map_cons, sprintf_cons_cons, hrest,
      List.append_assoc, expect_append, readHoles]
    rw [← List.append_assoc, hr rest]
    simp only [expect_append, hih]
    rfl

/-- A value of quotable characters reads back from a double-quoted scalar. -/
theorem reads_doubleQuoted {v : List Char} (hv : ∀ c ∈ v, quotable c = true) {fixed : List Char}
    (hf : fixed.head? = some '"') : Reads (.doubleQuoted, fixed) v v := by
  intro tail
  cases fixed with
  | nil => cases hf
  | cons c fixed =>
    obtain rfl : c = '"' := Option.some.inj hf
    simpa only [Style.scan, List.append_assoc, List.cons_append] using
      scanDoubleQuoted_quotable hv (fixed ++ tail)

end Discoblocks.Jobs

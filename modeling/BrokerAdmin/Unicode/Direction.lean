import BrokerAdmin.Unicode.Runs

/-!
# Direction of writing

Some scripts are written from right to left. Next to others their characters may be shown in an order
that hides what a name really is, so a name may mix them only in certain ways.

The table holds for folded characters only.

## Main definitions

* `Unicode.Direction`, `Unicode.direction`: how a character is written.
-/

namespace BrokerAdmin.Unicode

/-- How a character is written. -/
inductive Direction where
  /-- From left to right. -/
  | left
  /-- From right to left. -/
  | right
  /-- As a digit of European numbers. -/
  | europeanDigit
  /-- As a digit of Arabic numbers, which makes the text around it run from right to left. -/
  | arabicDigit
  /-- At the character before it. -/
  | mark
  /-- As what is around it. -/
  | neutral
  /-- On its own. -/
  | apart
  deriving DecidableEq, Repr

/-- How characters are written: `L` from left to right, `R` from right to left, `E` and `A` as digits,
`M` as marks, `O` as what is around them, and `X` apart. -/
def directionRuns : Runs := .ofText [
  "O9 X5 Oe X5 Of Ea O13 Lq O2s Lo O Lch O2 L7 Oe L2 Os L Oh M35 L4 O2 L3j O2 L3v M8 L73 O7 M19 R",
  "M R M2 R M2 R M9 R1i O2 R O2 R O R O2 Mb R1c Ml Aa O A2 R3 M R2t M8 O M6 R2 M2 O M4 R2 Ea Rn M",
  "Ru Mt R2h Mb R1m M9 R2 O4 R3 M Ro M4 R M9 R M3 R M7 R15 M5 R1l M9 R16 M1l L1j M L M L4 M8 L4 M",
  "L3 Mf L2 M2 Lt M L1m M L4 M6 L6 M Lk M4 Lc O2 L7 O L2 M5 L1l M2 L3 Mr Lk M2 L3 M Lb M2 L1l M",
  "L4 M8 L4 M3 Li M4 Lb O8 L M8 L1m M L2 M L M6 L6 Ma Lb M4 Ls M L1p M Lc M3 Lz Od M L3 M L1j M L",
  "M3 L5 Mi La M4 Li O7 L2 M L1m M Lf M9 Ld M4 Lq M2 L1l M2 L4 M5 L7 M Lk M4 Lr M L20 M5 L3 M6",
  "L2h M L2 Mb O L7 M8 L2q M L2 M9 Lb M8 L20 M2 Lr M L M L M O4 L1f Me L M5 L M2 L5 M1d L8 M L2u",
  "M4 L M6 L M2 L2 M2 Lp M2 L4 M3 Lg M4 Ld M L2 M2 L6 M Lf M Ljj M3 L1c Og L2o O Lii O5 L36 M3 Lt",
  "M2 Lu Me Li Me L1j M7 L8 M L2 Mb L7 O L M3 Lg Ow L39 M2 Ly M L3a M3 L4 M2 L9 M L6 M7 O6 L48 Oy",
  "Ln M2 L2 M3 L1k M L M9 L M L2 M8 L6 Md L1c M2c L1c M L M5 L M L5 M L14 M9 Lc M2 Lw M4 L2 M2 L",
  "M3 L1k M L M2 L3 M L M3 L1m M8 L2 M5 L45 M3 L Md L M7 L4 M L6 M L3 M2 L5i M1t Lej O5g M1g O22",
  "L1o Obw L1x Oq L O41 Lp Oh8 L O9f L74 Oie L O49 L51 O7 L3 M4 L6 O7 L3j M L2o Mw Oed L3 Op L9",
  "M4 L2 O L6 O4 L2 O4 L2g M4 L3 O L2i O L5g O10 L5i4 O1s Lh3k O1s L8t O3 L2n M4 O Ma O3 Lt M2",
  "L28 M2 Le Oz L2t O L3d M L3 M L4 M Lp M2 L O4 M4 L8 O8 L1g Oc L1w Ma Li Mi Ld M L12 M8 Lp Mb",
  "L1a M3 L1c M L2 M4 L2 M2 L13 M L1v M6 L2 M2 L2 Mb L3 M L8 M L1b M L1f M L M3 L2 M2 L5 M2 L M",
  "L16 M2 L8 Mb L2x O2e L11 M L2 M L4 M3 Lfn2 M44 Rb0 O2a R1r O29 M11 O1a Rb1 L75 O L1q O25 L3",
  "O1s L19 M3n L2o M Ev L3a Ma Lw0 R7z O R69 Mf R14 M8 R4l M6 R26 O7 Rdg Mc Ag R15 M5 R6q Aw R17",
  "M2 R25 M6 R1y Mb R1d M4 R3e L M L1i Mf Lb Ok La M L2 M2 La M3 L1d M4 L2 M2 L7 Me L1c M3 L10 M5",
  "L M9 L1p M Lc M2 L1g M9 La M4 L2 M L2n M3 L2 M L M2 L6 M L2 M1r L2n M L3 Md Lg M2 L1l M2 L3 M",
  "L11 Mq L1k Mp L M Le Mv L1k M8 L2 M3 L M Ln M L2c M6 L M L4 M2 L M2 L6m M6 L4 M2 L M2 Lr M10",
  "L1f M8 L2 M L M2 Lv Ow L17 M L M L2 M6 L M L2t M3 L2 M4 L M9 L73 M9 L M2 L74 M2 L M L4 M L40",
  "M8 L4 M Lw M6 L2 M2 L14 M6 L2 M4 L8 M9 L M6 L2 M3 L1a Md L M2 L5i M2o L34 Me L2c Mn L M7 L M2",
  "L M23 L1d Ml L M9 L1s M3 L2 M L M L9n M2 Lb M2 L1g M8 L2 M L M Ln M2e L11 O16 L401 M L6 Mp",
  "L8u6 Mi L1xc M5 L1n M7 Lt4 M L1r M4 L27 O L Mc Lf59 M2 L3mp M28 Lev M3 Lh M8 L2 M7 Lu M4 L1n",
  "O2h M3 O3f L1s O2o L1b4 M1j L4 M1e L8 M Le M Lm Mv9 L74 M74 L1c M7 Laf Mi L18 M4 Lf Ocx Ls M4",
  "L72 M2 L6r M L2 M L7 M2 L5 M9 L76 R5s M2a Ry M7 R145 Ogw Lt O3 L1p O1l L3e Ovs L4 O4b L4 O8n",
  "L26 O9g Lc O15 L7 O1a L O7 L8 Oe L4 O9 L7 O63 Ll3cl"]

/-- How a character is written. -/
def direction (c : Char) : Direction :=
  let kind := directionRuns.kind c
  if kind = 'L' then .left
  else if kind = 'R' then .right
  else if kind = 'E' then .europeanDigit
  else if kind = 'A' then .arabicDigit
  else if kind = 'M' then .mark
  else if kind = 'O' then .neutral
  else .apart

end BrokerAdmin.Unicode

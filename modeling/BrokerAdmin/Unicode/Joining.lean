import BrokerAdmin.Unicode.Runs

/-!
# Joined writing

In some scripts letters change their form to join the next one. Two characters that are not seen
themselves keep letters apart or together. They mean something only between such letters.

The table holds for folded characters only.

## Main definitions

* `Unicode.Joining`, `Unicode.joining`: on which sides a character joins others.
-/

namespace BrokerAdmin.Unicode

/-- On which sides a character joins others. -/
inductive Joining where
  /-- On none. -/
  | none
  /-- On both. -/
  | both
  /-- With the one before it. -/
  | before
  /-- With the one behind it. -/
  | behind
  /-- The characters around it join as if it were not there. -/
  | through
  deriving DecidableEq, Repr

/-- On which sides characters join others: `D` on both, `R` with the one before, `L` with the one
behind, `T` for those that are passed over, and any other letter on none. -/
def joiningRuns : Runs := .ofText [
  "Ulc T35 U7m T8 U7a T19 U T U T2 U T2 U T9 U1s Tb U5 D U R4 D R D R D5 R4 Dd C D7 R D2 Tl Ue D2",
  "T R3 U5 Df Ri D12 R D2 R9 D R D R D2 R2 U R T8 U T6 U2 T2 U T4 R2 Ua D3 U2 D Ug R T D3 R5 D4 R",
  "D9 R D R D R D2 R Tt R Db R3 Df R2 D4 R D R2 D3 R2 D6 U12 Tb Up Dx T9 U6 C3 T Uo T4 U T9 U T3",
  "U T7 Ug R D5 R2 D R Da R D R3 T5 U2 D U D4 U R D Rq C3 D U2 D5 R D8 T9 Da R3 U R D2 R2 D6 R Df",
  "U T1l U1j T U T U4 T8 U4 T U3 Tf U2 T2 Ut T U1m T U4 T6 U6 T Uk T4 Uo T5 U1l T2 U3 Tr Uk T2 U3",
  "T Ub T2 U1l T U4 T8 U4 T3 Ui T4 Uk T8 U1m T U2 T U T6 U6 Ta Ub T4 Us T U1p T Uc T3 U1c T U3 T",
  "U1j T U T3 U5 Ti Ua T4 Ur T U1m T U2 T U6 T U5 T9 Ud T4 Uq T2 U1l T2 U4 T5 U7 T Uk T4 Ur T U20",
  "T5 U3 T6 U2h T U2 Tb U8 T8 U2q T U2 T9 Ub T8 U20 T2 Ur T U T U T U1j Te U T5 U T2 U5 T1d U8 T",
  "U2u T4 U T6 U T2 U2 T2 Up T2 U4 T3 Ug T4 Ud T U2 T2 U6 T Uf T Ujj T3 Uqa T3 Ut T2 Uu Te Ui Te",
  "U1j T7 U8 T U2 Tb U9 T3 U13 D U2 C6 Ug D2o U5 T2 Dy T D6 U34 T3 U4 T2 U9 T U6 T7 U5z T2 U2 T3",
  "U1k T U T9 U T U2 T8 U6 Td U1c T2c U1c T U T5 U T U5 T U14 T9 Uc T2 Uw T4 U2 T2 U T3 U1k T U",
  "T2 U3 T U T3 U1m T8 U2 T5 U45 T3 U Td U T7 U4 T U6 T U3 T2 U5i T1t Uek C3 U5c T1g U2cr T4 U3w",
  "T U2o Tw Ufe T4 U2z T4 Un9u T4 U Ta Uw T2 U28 T2 U7k T U3 T U4 T Up T2 U5 T4 Ug D1e L U29 Ta",
  "Ui Ti Ud T U12 T8 Up Tb U1a T3 U1c T U2 T4 U2 T2 U13 T U1v T6 U2 T2 U2 Tb U3 T U8 T U1b T U1f",
  "T U T3 U2 T2 U5 T2 U T U16 T2 U8 Tb U6c T U2 T U4 T3 Ufn2 T44 Uha T11 Uqg T3n U2o T U45 Ta",
  "U1a9 Tf U14 T8 U3k D5 R U R U R2 U2 L R5 D4 L D5 R D3 R U2 R T6 D4 R U40 D R D R3 D3 R D2 R D",
  "R2 D R8 Ug R4 D2 U9d L Dx R D Tc U1l T5 U8t T2 Ul R D2 U Da U16 T6 U1c D3 R Dh U Tb D3 R Ur D4",
  "R2 Dc T4 U16 D U D2 R3 U D R2 D2 R D2 U D R2 D U4 R D Ll Ux T U1i Tf U15 T U2 T2 Ua T3 U1d T4",
  "U2 T2 U7 Te U1c T3 U10 T5 U T9 U1p T Uc T2 U1g T9 Ua T4 U2 T U2n T3 U2 T U T2 U6 T U2 T1r U2n",
  "T U3 Td Ug T2 U1l T2 U3 T U11 Tq U1n T7 Uc T U T U T Ue Tv U1k T8 U2 T3 U T Un T U2c T6 U T U4",
  "T2 U T2 U6m T6 U4 T2 U T2 Ur T10 U1f T8 U2 T U T2 U2y T U T U2 T6 U T U2t T U T U2 T4 U T9 U73",
  "T9 U T2 U74 T2 U T U4 T U40 T8 U4 T Uw Ta U14 T6 U2 T4 U8 T9 U T6 U2 T3 U1a Td U T2 U5i T U T3",
  "U T U5l Te U T U2a Tn U T7 U T2 U T23 U1d Tl U T9 U1s T3 U2 T U T U9n T2 Ub T2 U1g T8 U2 T U T",
  "Un T2e U428 T U6 Tp U8u6 Tc U3 T3 U1xc T5 U1n T7 Ut4 T U1r T4 U29 Tc Uf59 T2 U3mp T28 Uev T3",
  "Uh T8 U2 T7 Uu T4 U44 T3 U1iz T1j U4 T1e U8 T Ue T Um Tv9 U74 T74 U1c T7 Uaf Ti U18 T4 Ue4 T4",
  "U72 T2 U6r T U2 T U7 T2 U5 T9 Ucy T2a Dy Tc Ul700"]

/-- On which sides a character joins others. -/
def joining (c : Char) : Joining :=
  let kind := joiningRuns.kind c
  if kind = 'D' then .both
  else if kind = 'R' then .before
  else if kind = 'L' then .behind
  else if kind = 'T' then .through
  else .none

end BrokerAdmin.Unicode

import BrokerAdmin.Unicode.Runs

/-!
# Combining characters

Some characters join the one before them. Those that join it at a place of their own, above or below,
have a class that says which; marks of different classes may be written in any order, marks of one
class may not.

The tables hold for folded characters only.

## Main definitions

* `Unicode.combiningClass`: the class of a character, which is zero for most.
* `Unicode.isMark`: whether a character is a mark on the one before it.
-/

namespace BrokerAdmin.Unicode

/-- The classes of characters: `K` with the class, and `N` for the class zero. -/
def combiningRuns : Runs := .ofText [
  "Nlc Kl.6e K.6g K4.64 K.6g K.60 K5.64 K2.5m K4.64 K2.5m Kb.64 K5.1 K4.64 Ka.6e K3.64 K3.6e",
  "K3.64 K3.6e K4.64 K.6e K.6g K2.64 K.6e K.6h K2.6i K.6h K2.6i K.6h Ke.6e N7m K5.6e N7d K.64",
  "K4.6e K.64 K3.6e K.66 K.64 K6.6e K6.64 K2.6e K.64 K2.6e K.66 K.6c K.6e K.a K.b K.c K.d K.e K.f",
  "K.g K.h K.i K2.j K.k K.l K.m N K.n N K.o K.p N K.6e K.64 N K9.i N1s K8.6e K.u K.v K.w N1c K.r",
  "K.s K.t K.u K.v K.w K.x K.y K2.6e K2.64 K5.6e K.64 K2.6e K.64 Ng K.z N2t K8.6e N K4.6e K.64",
  "K.6e N2 K2.6e N K.64 K2.6e K.64 Nz K.10 Nu K.6e K.64 K2.6e K.64 K2.6e K3.64 K.6e K2.64 K.6e",
  "K.64 K3.6e K.64 K.6e K.64 K.6e K.64 K.6e K.64 K4.6e N4e K7.6e K.64 K.6e N9 K.64 No K4.6e N",
  "K9.6e N K3.6e N K7.6e N15 K5.64 N1l K2.6e K3.64 K4.6e N16 K5.6e K5.64 Kf.6e K.64 K2.6e K.64",
  "K2.6e K.64 K3.6e K3.64 K.r K.s K.t K3.6e K.64 K2.6e K2.64 K5.6e N1o K.7 Ng K.9 N3 K.6e K.64",
  "K2.6e N2v K.7 Ng K.9 N1c K3.6e N1n K2.7 Nf K4.9 N2z K.7 Ng K3.9 N30 K.7 Ng K8.9 N3c K3.9 N30",
  "K.7 Ng K8.9 K.2c K2.2j N2s K.7 Ng K8.9 N2u K2.9 Ng K.9 N3g K5.9 N2x K2.2v K5.9 N9 K4.2z N30",
  "K2.3a K.9 Nd K4.3e N24 K2.64 Nr K.64 N K.64 N K.60 N1j K.3l K2.3m K6.3o K4.3m N2 K2.3m K2.6e",
  "K.9 N K2.6e N1q K.64 N34 K.7 N K2.9 N2a K.64 Njz K3.6e Nqc Kb.9 Nl K.9 N4d K.9 Na K3.6e N5l",
  "K.6c N3z K.66 K.6e K5.64 N5z K.6e K.64 N1z K.9 Nk Ka.6e K.64 N1c K5.6e K6.64 K2.6e K.64 N",
  "K2.64 K2.6e K2.64 K5.6e K.64 Ki.6e K3.64 K6.6e K.64 K4.6e Kl.6i N1g K.7 Nf K.9 N12 K.6e K.64",
  "K7.6e N1i K2.9 N1m K.7 Nb Ka.9 N1n K4.7 N45 K3.6e N K.1 K5.64 K2.6e K4.64 K.6e N K7.1 N4 K.64",
  "N6 K.6e N3 K2.6e N5i K2.6e K.64 K7.6e K.64 K2.6e K.6i K.5y K.64 K.5m K11.6e K.6g K2.6c K.64",
  "K.62 K.6e K.6h K.64 K.6e K2.64 Njz K2.6e K2.1 K4.6e K3.1 K2.6e N4 K.6e N3 K2.1 K.6e K.64 K.6e",
  "K2.1 K4.64 Kk.6e N2cr K4.6e N3w K.9 N2o Kw.6e Nfe K.62 K.6c K.6g K.66 K2.68 N2x K4.8 Nn9u K.6e",
  "N4 Ka.6e Nw K2.6e N28 K2.6e N7o K.9 N11 K4.9 N44 K.9 Nr Ki.6e N1l K3.64 N11 Kc.9 N2c K.7 Nc",
  "K.9 N6n K.6e N K2.6e K.64 N2 K2.6e N5 K2.6e N K.6e N1g Kb.9 N6k K3.9 Nfn2 K44.q Nha K7.6e",
  "K7.64 Kn.6e Nqg K3n.64 N2o K.64 N45 Ka.6e N1al K.64 N K.6e N14 K.6e K.1 K5.64 K.9 N4l K.6e",
  "K5.64 Nft Kc.6e N1l K5.6e N8t K2.6e N25 K2.64 N K3.64 N1y K2.64 K3.6e K.64 K.6e K4.64 N1d K.6e",
  "K.64 K.6e K.64 N5c K.9 N15 K.9 Ne K.9 N1l K.9 K.7 N1x K3.6e N1c K3.9 N1p K.7 N24 K.9 N9 K.7",
  "N2y K.9 K.7 N4y K.7 K6.9 N23 K2.7 Ng K3.9 Nm Kq.6e N26 K3.9 N35 K.9 N3 K.7 Nn K.6e N2r K.9 K.7",
  "N6z K.9 K.7 N3i K.9 N3a K.9 K.7 N37 K5.9 N7d K.9 K.7 N76 K2.9 N4 K.7 N4c K.9 N2b K.9 Ni K9.9",
  "N21 K.9 Nbp K.9 N76 K.7 N K2.9 N29 K.9 Nbt K2.9 Nd0s K.9 N1xc K5.1 N1n K7.6e Nxl K2.6 Nf58 K.1",
  "N43q K2.60 K3.1 N3 K.6a Kd.60 K8.64 N2 K5.6e K2.64 Nu K4.6e N44 K3.6e N2pn K74.6e N1c K7.6e",
  "Naf Ki.6e N18 K4.6e Ne4 K2.6g K.64 K.6e N72 K.6e K.64 N6r K.6e N2 K.6e N7 K2.6e N5 K9.6e Ncy",
  "K2a.64 Ny K6.6e K.7 Nl705"]

/-- Which characters are marks: `Y` for marks and `N` for others. -/
def markRuns : Runs := .ofText [
  "Nlc Y35 N7m Y8 N7a Y19 N Y N Y2 N Y2 N Y9 N1s Yb N1c Yl Ng Y N2t Y8 N Y6 N2 Y2 N Y4 Nz Y Nu Yt",
  "N2h Yb N1m Y9 N9 Y No Y4 N Y9 N Y3 N Y7 N15 Y5 N1l Y9 N16 Y1m N1i Y3 N Yi N Yf N2 Y2 Nt Y4 N1j",
  "Y N Yg N9 Y9 N2 Y4 No Y7 N1j Yw Nk Y2 N3 Y Nb Y4 N1j Y N Yi Ni Y4 Nk Yb N1j Y N Yx N3 Y4 Ns Y",
  "N1n Yi N7 Yf Nq Y5 N1j Y N Yq Na Y4 Nr Y3 N1k Y N Yu N6 Y4 Nd Yh N1j Y2 N Yg N9 Y Na Y4 Nr Y4",
  "N1x Ys Nc Y2 N1p Y N2 Yb N8 Y8 N2q Y N2 Y9 Nb Y8 N20 Y2 Nr Y N Y N Y N4 Y2 N1d Yk N Y2 N5 Y1d",
  "N8 Y N2s Yk Nn Y4 N4 Y3 N Y3 N2 Y7 N3 Y4 Nd Yc N Y Na Y4 Njj Y3 Nqa Yd Nj Y3 Nt Ye Ni Ye N1i",
  "Yu N9 Y3 N4l Y2 Ny Y N3a Yw N5z Y7 N1j Y17 N1c Y2d N1b Yh N12 Y9 Nc Y3 Nu Yd N1k Ym N14 Yn N45",
  "Y3 N Yl N4 Y N6 Y N2 Y3 N5i Y1t Njz Y1g N2cr Y4 N3w Y N2o Yw Nfe Y6 N2x Y4 Nn9u Y4 N Ya Nw Y2",
  "N28 Y2 N7k Y N3 Y N4 Y Nn Y5 N4 Y4 N28 Y2 N1e Yq Ni Yi Nd Y N12 Y8 Np Yo Nx Y4 N1b Ye N10 Y",
  "N1v Yn N3 Y N8 Y4 N17 Y3 N1e Y N Y3 N2 Y2 N5 Y2 N Y N15 Y5 N5 Yc N6a Y8 N Y4 Nfn2 Y44 Nha Y11",
  "Nqg Y3n N2o Y N45 Ya N1a9 Yf N14 Y8 N4l Y6 Nft Yc N1l Y5 N8t Y2 N25 Y6 N1y Yb N1d Y4 N3e Y3",
  "N1h Yf N15 Y N2 Y2 Na Y4 N19 Yb N7 Ye N1c Y3 N10 Yf Nf Y2 N18 Y Nc Y3 N1c Ye N8 Y4 N Y2 N2k Yc",
  "N6 Y N2 Y1r N2n Yh Ng Y5 N1i Y2 N Yi N7 Y6 N5 Yu N1k Yp N Y Ne Yv N1h Yi Nn Y N29 Yk N6j Yi Nr",
  "Y10 N1c Yh N2y Yd N2t Yj N70 Yf N6t Yf N Y N Y2 N3x Yg N3 Ys N Ya N14 Y7 N Y4 N8 Y9 N Yb N1a",
  "Yg N5i Y2o N33 Yh N2a Y32 N1d Yl N Y9 N1m Ye N9n Y4 N9 Y2 N Y N1c Yf Nn Y2e N428 Y N6 Yp N8u6",
  "Yi N1xc Y5 N1n Y7 Nt4 Y N Y1u N29 Ye Nf57 Y2 N3mp Y28 Net Y5 N3 Ym N2 Y7 Nu Y4 N44 Y3 N1iz Y1j",
  "N4 Y1e N8 Y Ne Y Nm Yv9 N74 Y74 N1c Y7 Naf Yi N18 Y4 Ne4 Y4 N72 Y2 N6r Y N2 Y N7 Y2 N5 Y9 Ncy",
  "Y2a Ny Y7 Nl705"]

/-- The class of a character. -/
def combiningClass (c : Char) : Nat := ((combiningRuns.find c).numbers.head?.getD 0).toNat

/-- The class of the marks that take the vowel from a letter. -/
def vowelKiller : Nat := 9

/-- Whether a character is a mark on the one before it. -/
def isMark (c : Char) : Bool := markRuns.kind c = 'Y'

end BrokerAdmin.Unicode

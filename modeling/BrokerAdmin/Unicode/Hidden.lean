import BrokerAdmin.Unicode.Runs

/-!
# Characters that are not seen

A reader cannot see controls, spaces other than the usual one, hints for the layout, characters for
private use and those that are not assigned, and sees a mark only on the character before it.

## Main definitions

* `Unicode.isHidden`: whether a character cannot be seen by itself.
-/

namespace BrokerAdmin.Unicode

/-- Which characters cannot be seen by themselves: `Y` for these and `N` for others. -/
def hiddenRuns : Runs := .ofText [
  "Yw N2n Yy Nc Y Ngi Y34 N8 Y2 N6 Y4 N7 Y N Y Nk Y N68 Y7 N4m Y N12 Y2 N1e Y2 N3 Y1a N Y N Y2 N",
  "Y2 N Y9 Nr Y4 N6 Yh Na Yb N Y N1a Yl Ng Y N2t Y8 N Y6 N2 Y2 N Y4 Nw Y2 N Y Nu Yt N2h Yb N Ye",
  "N17 Y9 N7 Y3 No Y4 N Y9 N Y3 N Y7 Nf Y Np Y5 N Y Nb Y5 Nw Yg N16 Y1l N1j Y N Y N4 Y8 N4 Y N3",
  "Y7 Na Y2 Nt Y N2 Y N8 Y2 N2 Y2 Nm Y N7 Y N Y3 N4 Y3 N Y N2 Y6 N2 Y2 N2 Y N Yd N2 Y N3 Y4 No Y5",
  "N Y N6 Y4 N2 Y2 Nm Y N7 Y N2 Y N2 Y N2 Y4 N3 Yo N4 Y N Y7 Na Y2 N3 Y N Yc N Y N9 Y N3 Y Nm Y",
  "N7 Y N2 Y N5 Y3 N4 Y8 N Y N2 Y3 N Yf N2 Y4 Nc Y7 N Y8 N2 Y N8 Y2 N2 Y2 Nm Y N7 Y N2 Y N5 Y3 N",
  "Y2 N Y6 N2 Y2 N2 Yf N2 Y N3 Y4 Ni Yb N Y N6 Y3 N3 Y N4 Y3 N2 Y N Y N2 Y3 N2 Y3 N3 Y3 Nc Y5 N Y",
  "N2 Y3 N3 Y N3 Y3 N Yl Nl Y6 N3 Y N8 Y N3 Y Nn Y Ng Y3 N Y3 N4 Yj N3 Y N2 Y2 N2 Y4 Na Y7 Na Y",
  "Nb Y N3 Y Nn Y Na Y N5 Y3 N2 Y2 N Y N2 Yn N3 Y N2 Y4 Na Y N3 Ye Nb Y N3 Y N15 Y2 N Y N2 Y5 N3",
  "Y N3 Y N2 Y4 N3 Y Na Y4 Nq Y2 N2 Y Ni Y3 No Y N9 Y N Y2 N7 Y9 N2 Y6 N7 Y7 Na Y2 N3 Yc N1c Y N2",
  "Yb N8 Y8 Nd Y11 N2 Y N Y N5 Y No Y N Y Na Y N2 Y9 N Y2 N5 Y N Y9 Na Y2 N4 Yw No Y2 Nr Y N Y N",
  "Y Ne Y N10 Yi N Y5 N Y2 N5 Y1d N8 Y N6 Y Nd Y11 N19 Y4 N Y6 N Y2 N2 Y2 Np Y2 N4 Y3 Ng Y4 Nd Y",
  "N2 Y2 N6 Y Nf Y N14 Y N Y5 N Y2 Nah Y N4 Y2 N7 Y N Y N4 Y2 N15 Y N4 Y2 Nx Y N4 Y2 N7 Y N Y N4",
  "Y2 Nf Y N1l Y N4 Y2 N1v Y5 Nt Y3 Nq Y6 N2e Y2 N6 Y2 Nhs Y Ns Y3 N2h Y7 Ni Yd Nj Y3 N2 Y9 Ni Ye",
  "Nd Y N3 Yf N1g Y2 N Y7 N8 Y N2 Yb N9 Y3 Na Y6 Na Y6 Nb Y5 Na Y6 N2h Y7 N5 Y2 Ny Y N Y5 N1y Ya",
  "Nv Y4 N4 Y2 N3 Y4 N2 Y N6 Y7 N Y3 N16 Y2 N5 Yb N18 Y4 Nq Y6 Nb Y3 N1l Y2 N2 Y3 N1k Y N Y9 N Y",
  "N2 Y8 N6 Yd Na Y6 Na Y6 Ne Y2e N1c Ya N4 Y3 N8 Y Nt Y9 Nc Y2 Nw Y4 N2 Y6 N1k Y N Y2 N3 Y N Yd",
  "N1c Y8 N2 Y5 Nf Y3 N1q Y5 N17 Y2 Nb Yb N Yd N Y7 N4 Y N6 Y N3 Y2 N Y5 N5c Y1s N7q Y2 N6 Y2 N12",
  "Y2 N6 Y2 N8 Y N Y N Y N Y Nv Y2 N1h Y Nf Y Ne Y2 N6 Y Nj Y2 N3 Y N9 Yh No Y8 N1b Yh N2 Y2 Nr Y",
  "Nd Y3 Ny Y1q N3w Y4 Nii Ym Nb Yl N1ec Y2 Nah Y3 N2 Y5 N19 Y N Y5 N Y2 N1k Y7 N2 Yf Nn Y9 N7 Y",
  "N7 Y N7 Y N7 Y N7 Y N7 Y N7 Y N7 Yx N2m Yy Nq Y N2h Yc N5y Yq Ng Y N15 Y6 Ng Y N2e Y4 N2t Y5",
  "N17 Y N2m Y N2e Y9 N1c Y Nmlp Y3 N1j Y9 N9o Yk N1b Y4 N Ya Nw Y2 N28 Y2 N6 Y8 N65 Yk Nh Y N3 Y",
  "N4 Y Np Y2 N5 Y4 Na Y6 N1k Y8 N1w Ya Nc Yo Nd Y N12 Y8 Np Yb N Yc Nu Y6 N1c Y N2 Y4 N2 Y2 N2 Y",
  "Nd Y Nb Y4 N7 Y Np Y N15 Y6 N2 Y2 N2 Yb N3 Y N8 Y N Y2 Na Y2 Nw Y N1f Y N Y3 N2 Y2 N5 Y2 N Y N",
  "Yo Nh Y2 N8 Yb N6 Y2 N6 Y2 N6 Y9 N7 Y N7 Y N1o Y4 N39 Y N2 Y N4 Y3 Na Y6 N8mc Yc Nn Y4 N1d",
  "Y6is Na6 Y2 N2y Y12 N7 Yc N5 Y5 N Y No Y N5 Y N Y N2 Y N2 Y Ni2 Yw Ng Yg Na Ym Nz Y Nj Y N4 Y4",
  "N5 Y N3r Y4 N4d Y2 Nv Y3 N6 Y2 N6 Y2 N6 Y2 N3 Y3 N7 Y N7 Yd N2 Y2 Nc Y Nq Y Nj Y N2 Y Nf Y2 Ne",
  "Yy N3f Y5 N3 Y4 N19 Y3 N2g Y Nd Y3 N Y1b N19 Y3n Nt Y3 N1d Yg Nr Y4 N10 Y9 Nu Y5 N12 Ya Nu Y",
  "N11 Y4 Ne Y16 N4e Y2 Na Y6 N10 Y4 N10 Y4 N14 Y8 N1g Yb Nc Y Nf Y N7 Y N2 Y Nb Y Nf Y N7 Y N2",
  "Y3 N1g Yc N8n Y9 Nm Ya N8 Yo N6 Y N16 Y N9 Y1x N6 Y2 N Y N18 Y N2 Y3 N Y2 Nn Y N20 Y8 N9 Y1c",
  "Nj Y N2 Y5 Nx Y3 Nr Y5 Nr Y12 N1k Y4 Nk Y2 N1b Yf N4 Y N3 Y Nt Ya N9 Y7 N9 Y7 N1s Yw N11 Y6 Nc",
  "Y9 N1i Y3 Nt Y2 Nr Y5 Nq Y7 N4 Yc N7 Y28 N21 Y1j N1f Yd N1f Y7 N16 Yc Na Y6 N12 Y8 No Y8 N2",
  "Y5s Nv Y N16 Y3 N Y2 N2 Yg N6 Y8 N9 Y13 N14 Y8 Nm Yb N9 Ym Ni Y4 N4 Y12 Ns Yk Nn Y9 N Y N1i Yf",
  "N7 Y4 Nu Y N2 Y2 N Yc N1d Y4 N2 Y2 N2 Y N4 Ye Np Y7 Na Y9 N10 Y5 N Y9 Ni Y8 Nz Y N3 Yb N1g Y9",
  "N Y N8 Y4 N2 Y Ng Y Nk Yb Ni Y Ns Y3 N2 Y4 N6 Y N2 Y1r N7 Y N Y N4 Y Nf Y Nb Y6 N1b Y N3 Yd Na",
  "Y8 N2 Y N8 Y2 N2 Y2 Nm Y N7 Y N2 Y N5 Y3 N Y N Y N4 Y2 N2 Y2 N2 Y3 N Yc N7 Ys Na Y N Y2 N Y",
  "N12 Y N Y N2 Yf N Y N2 Y3 N Y N3 Y N2 Y13 N1k Y8 N2 Y3 N Y Nl Y N Y N3 Yu N1c Y N2 Y6 N Y N2 Y",
  "N Y2 N Y2 N4 Y8 Na Y4m N1b Y N2 Y6 N4 Y2 N Y2 Nr Y10 N1f Y8 N2 Y N Y2 N4 Yb Na Y6 Nd Yj N17 Y",
  "N Y N2 Y8 N2 Y6 Na Y6 Nk Ys Nr Y3 N Y N2 Y4 N Y9 Nn Y55 N1b Y9 N Y2 N Y2s N2b Yc N8 Y2 N Y2 N8",
  "Y N2 Y No Y N5 Y N2 Y6 N4 Y N3 Y9 Na Y1y N8 Y2 N16 Y8 N4 Y N4 Yr N Ya N14 Y6 N2 Y4 N8 Y9 N Y6",
  "N2 Y3 N1a Yd N Y2 N9 Yd N21 Y7 Na Y2f N Y3 N Y N Y2g Ny Ye Na Y6 N9 Y N12 Ye N Y N6 Ya Nt Y3",
  "Nw Yp N Y7 N Y2 N Y23 N7 Y N2 Y N12 Yl N Y9 Na Y6 N6 Y N2 Y N11 Y4 N2 Y N Y N Y7 Na Y6 N18 Y4",
  "Na Y6u Nj Y2 N4 Y9 Nf Y N10 Y8 N2 Y3 Nn Y2e N Yf N1e Yd Npn Y2u N33 Y N5 Yb N5g Y218 N2r Yd",
  "Nts Yh N6 Yp N32z Y5 Ng7 Y5a1 Nu Yc N3 Y3 Na Y1c6 Nft Y7 Nv Y Na Y4 N29 Y Na Y6 Nu Y7 N Ya N1c",
  "Y7 Nf Ya Na Y N7 Y Nl Y5 Nj Yc0 N1m Y5i N2j Y5 Np Y2 Np Y18 N23 Y5 N1k Yb Nd Y1s N4 Ye N5 Y9",
  "N5p2 Y15 Nw Y2p N37 Y6pp N4 Y N7 Y N2 Y N83 Yf N Yt N3 Y2 N Ye N4 Y8 Nb0 Y1s4 N2z Y5 Nd Y3 N9",
  "Y7 Na Y2 N Y2 N Y31c N71 Y3 Nc4 Y6 Nn Yf Nh Y2n N38 Y1o N6u Ya N13 Y2 N1o Y5 N3 Ym N2 Y7 Nu Y4",
  "N1p Yl N1u Y3 N Y3e Nk Yc Nk Yc N2f Y9 Np Y3r N2d Y N1z Y N2 Y2 N Y2 N2 Y2 N4 Y Nc Y N Y N7 Y",
  "N1t Y N4 Y2 N8 Y N7 Y Ns Y N4 Y N5 Y N Y3 N7 Y N9g Y2 N84 Y2 Nfm Y1j N4 Y1e N8 Y Ne Y N7 Yvo",
  "Nv Y6 N6 Y79 N1q Y42 N19 Ya N7 Y2 Na Y4 N2 Y8w Nu Yi N18 Y4 Na Y5 N Ycw Ns Y4 Na Y5y Nu Y2 Nb",
  "Y4 N Y5c Nv Y N3 Y N2 Y N7 Y2 N5 Y9 N2 Y68 N7 Y N4 Y N2 Y Nf Y N5h Y2 N9 Y1c N1w Y7 N Y4 Na Y4",
  "N2 Ylt N1w Y24 N1p Y5e N4 Y Nr Y N2 Y N Y2 N Y Na Y N4 Y N Y N Y6 N Y4 N Y N Y N Y N3 Y N2 Y N",
  "Y2 N Y N Y N Y N Y N Y N2 Y N Y2 N4 Y N7 Y N4 Y N4 Y N Y Na Y Nh Y5 N3 Y N5 Y Nh Y1g N2 Y7i",
  "N18 Y4 N2s Yc Nf Y2 Nf Y Nf Y N11 Ya N4u Y1k Nt Yd N18 Y4 N9 Y7 N2 Ye N6 Y4a Nrd Y3 Nh Y3 Nd",
  "Y3 N62 Y6 Nc Y4 N Yf Nc Y4 N1k Y8 Na Y6 N14 Y8 Nu Y2 Nc Y4 N2 Ye N9 Y13 N9k Y8 Ne Y2 Nd Y3 Nb",
  "Y3 N1l Y N Y4 Ng Y2 Nc Y4 Na Y7 N43 Y N2v Ysl Nwyo Yw N3dq Y2 N4ge Y2 N5rl Yf Nha Y1wi Nf2",
  "Y15u N3t7 Y5 N6ju Yjdl2"]

/-- Whether a character cannot be seen by itself. -/
def isHidden (c : Char) : Bool := hiddenRuns.kind c = 'Y'

end BrokerAdmin.Unicode

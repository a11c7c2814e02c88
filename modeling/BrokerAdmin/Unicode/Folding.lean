import BrokerAdmin.Unicode.Runs

/-!
# Folding for domain names

Domain names that differ only in case, in width or in another way of writing the same characters are
the same. Each character has a folded form: itself, another character, several characters, or none at
all. Some characters have no place in domain names.

## Main definitions

* `Unicode.fold?`: the folded form of a character.
* `Unicode.isFolded`: whether a character is its own folded form.
-/

namespace BrokerAdmin.Unicode

/-- How characters are folded. The kinds are `V` for characters that stay, `I` for those that vanish
and `X` for those that are refused; `S` for those that move by a distance, `A` for pairs the first of
which becomes the second, and `M` for those that become the characters with the given numbers. -/
def foldingRuns : Runs := .ofText [
  "V1t Sq.w V11 Xw S.-3k V7 M.w.lk V S.-21 V2 I V M.w.lg V2 S2.-3k M.w.ld S.lj V2 M.w.mf S.-3s",
  "S.-23 V M.1d.6dg.1g M.1d.6dg.1e M.1f.6dg.1g V Sn.w V S7.w Vx A1c M.2x.lj V M2.2x.2y A4 V A6",
  "M2.30.53 A8 M.jg.32 A1a S.-3d A6 S.-7g V S.5u A4 S.5q S.1 V S2.5p S.1 V2 S.27 S.5m S.5n S.1 V",
  "S.5p S.5r V S.5v S.5t S.1 V3 S.5v S.5x V S.5y A6 S.62 S.1 V S.62 V2 S.1 V S.62 S.1 V S2.61 A4",
  "S.63 S.1 V3 S.1 V7 M3.2s.am M3.30.2y M3.32.2y Ag V Ai V M3.2s.3e S.1 V S.-2p S.-1k A14 S.-3m V",
  "Ai V6 S.8bv S.1 V S.-4j S.8bs V2 S.1 V S.-5f S.1x S.1z Aa V2o S.-g8 S.-23 S.-g8 S.-g1 S.-1n",
  "S.-1m S.-1h S.-g0 S.-fz Vv M.w.li M.w.lj M.w.lm M.w.mg M.w.lf M.w.ln V2 S.-3h S.-hh S.-hb",
  "S.-h7 S.-27 V2j S2.-1s V S.-1c M.lk.ld S.38 V9 I Vw A4 S.-57 V S.1 V X2 M.w.qh V3 S.-n7 S.38",
  "X4 M.w.ld M.w.lk.ld S.12 S.-k0 S3.11 X S.1s X S2.1r V Sh.w X S9.w Vz S.8 S.-u S.-p S.-d S.-6",
  "S.-9 S.-f S.-m V Ao S.-1i S.-1c S.-1b V S.-1o S.-1s V S.1 V S.-1i S.1 V2 S3.-3m Sg.28 Sw.w V1c",
  "Ay V8 A1i S.f Ae V A2o X S12.1c X2 V1a M.12d.136 V3 X2 V3 X V1j X8 Vr X4 V6 Xh Vm X V2g",
  "M.17r.19w M.18o.19w M.1c7.19w M.18q.19w V2s X V1c X2 V1n X2 V2t Xe V1n X2 V1d X2 Vf X Vs X2 V",
  "X Vb X5 Vw X7 V23 X V39 M.1sl.1to M.1sm.1to M.1sn.1to M.1ss.1to M.1sx.1to M.1sy.1to M.1t7.1to",
  "M.1tb.1to V10 X V8 X2 V2 X2 Vm X V7 X V X3 V4 X2 V9 X2 V2 X2 V4 X8 V X4 M.1wh.1x8 M.1wi.1x8 X",
  "M.1wv.1x8 V4 X2 Vp X2 V3 X V6 X4 V2 X2 Vm X V7 X V M.20i.20s X V M.20o.20s X V2 X2 V X V5 X4",
  "V2 X2 V3 X3 V X7 M.1zq.20s M.1zr.20s M.1zw.20s V X M.20b.20s X7 Vh Xa V3 X V9 X V3 X Vm X V7 X",
  "V2 X V5 X2 Va X V3 X V3 X2 V Xf V4 X2 Vc X7 V7 X V3 X V8 X2 V2 X2 Vm X V7 X V2 X V5 X2 V9 X2",
  "V2 X2 V3 X7 V3 X4 M.275.27w M.276.27w X V5 X2 Vi Xa V2 X V6 X3 V3 X V4 X3 V2 X V X V2 X3 V2 X3",
  "V3 X3 Vc X4 V5 X3 V3 X V4 X2 V X6 V Xe Vl X5 Vd X V3 X Vn X Vg X2 V9 X V3 X V4 X7 V2 X V3 X V2",
  "X2 V4 X2 Va X7 Vm X V3 X Vn X Va X V5 X2 V9 X V3 X V4 X7 V2 X5 V3 X V4 X2 Va X V3 Xc Vd X V3 X",
  "V1f X V3 X V6 X4 Vg X2 Vq X V3 X Vi X3 Vo X V9 X V X2 V7 X3 V X4 V6 X V X V8 X6 Va X2 V3 Xc",
  "V1e M.2tp.2sy V7 X4 Vt X11 V2 X V X V5 X Vo X V X Vc M.2x9.2wi Va X2 V5 X V X V7 X Va X2",
  "M.2wb.2vt M.2wb.2w1 V2 Xw Vc S.-1 V1i M.30i.33r V4 X V4 M.30s.33r V4 M.30x.33r V4 M.312.33r V4",
  "M.317.33r Vc M.30g.33p V3 X4 V2 M.31t.31u V M.31t.31w M.33m.328 M.33m.31t.328 M.33n.328",
  "M.33n.31t.328 V7 M.31t.328 Vh M.32q.33r V4 X V4 M.330.33r V4 M.335.33r V4 M.33a.33r V4",
  "M.33f.33r Vc M.32o.33p V3 X Vf X Vd X11 V4g S12.5ls X S.5ls X5 S.5ls X2 V18 S.-w V2q I2 V6g X",
  "V4 X2 V7 X V X V4 X2 V15 X V4 X2 Vx X V4 X2 V7 X V X V4 X2 Vf X V1l X V4 X2 V1v X2 Vw X3 Vq X6",
  "V2e X2 S6.-8 X2 Vhs X Vs X3 V2h X7 Vm X9 Vo X9 Vk Xc Vd X V3 X V2 Xc V1g I2 V14 X2 Va X6 Va X6",
  "Vb I5 Va X6 V2h X7 V17 X5 V1y Xa Vv X Vc X4 Vc X4 V X3 V16 X2 V5 Xb V18 X4 Vq X6 Vb X3 V1q X2",
  "V1t X Vt X2 Vb X6 Va X6 Ve X2 V1a X2 Vc Xk V25 X V4m X8 V1o X3 Vf X3 V1f S.-4su S.-4st S.-4sk",
  "S2.-4si S.-4sj S.-4sc S.-4ro S.r7n S.1 V X5 S17.-2bk X2 S3.-2bk V8 X8 V17 X5 V18 S.-5or S.-5l3",
  "S.-5os V S2.-5os S.-5ed S8.-5os V S.-5ot S.-5cq S.-5ou S.-5ot S2.-5os S.-5or S.-5pe S2.-5bo",
  "S.-1w S.-5ph S2.-5pg S.-5bl S2.-5bk S.-5pi V S.-5pg S.-5pf S.-5ja S.-5pf S.-5bz S2.-1q S.-5pi",
  "S2.-5pf S.-1o S.-5bf S.-5ph S.-1j S3.-52j S2.-522 S.-5q1 S.-5pt S2.-5pr S2.-52s S.-52f S2.-52b",
  "Vd S.-4zf Vy S.-5e1 S.-5rt S.-5e0 S.-5ny S.-5dv S.-5ru S.-5du S.-5dt S.-5dq S3.-5do S.-18",
  "S.-5cb S.-5do S.-11 S.-5cc S.-5dn S.-5dp S4.-5do S.-5dm S2.-5dd S.-5je S2.-5d9 S.-4c S2.-5da",
  "S.-5s1 S3.-5d8 S.-553 V1s A46 V4 M.2p.ji S.-1m V2 S.-5vj V A2o V8 S8.-8 V6 X2 S6.-8 X2 V8",
  "S8.-8 V8 S8.-8 V6 X2 S6.-8 X2 V8 X S.-8 X S.-8 X S.-8 X S.-8 V8 S8.-8 V S.-5hh V S.-5hi V",
  "S.-5hj V S.-5hk V S.-5gt V S.-5gu V S.-5gv X2 M.64g.qh M.64h.qh M.64i.qh M.64j.qh M.64k.qh",
  "M.64l.qh M.64m.qh M.64n.qh M.64g.qh M.64h.qh M.64i.qh M.64j.qh M.64k.qh M.64l.qh M.64m.qh",
  "M.64n.qh M.65c.qh M.65d.qh M.65e.qh M.65f.qh M.65g.qh M.65h.qh M.65i.qh M.65j.qh M.65c.qh",
  "M.65d.qh M.65e.qh M.65f.qh M.65g.qh M.65h.qh M.65i.qh M.65j.qh M.674.qh M.675.qh M.676.qh",
  "M.677.qh M.678.qh M.679.qh M.67a.qh M.67b.qh M.674.qh M.675.qh M.676.qh M.677.qh M.678.qh",
  "M.679.qh M.67a.qh M.67b.qh V2 M.67k.qh M.q9.qh M.q4.qh X V M.69i.qh S2.-8 S.-22 S.-5jj M.q9.qh",
  "M.w.lv S.-5j9 M.w.lv M.w.n6 M.w.lk.n6 M.67o.qh M.qf.qh M.q6.qh X V M.69y.qh S.-2e S.-5jw S.-2e",
  "S.-5jx M.qf.qh M.w.lv.lc M.w.lv.ld M.w.lv.n6 V3 S.-5kz X2 V2 S2.-8 S.-2s S.-5kc X M.w.lw.lc",
  "M.w.lw.ld M.w.lw.n6 V3 S.-5kj V4 S2.-8 S.-34 S.-5jy S.-7 M.w.lk.lc M.w.lk.ld S.-68f X2",
  "M.67w.qh M.qx.qh M.r2.qh X V M.6ba.qh S.-3k S.-5kd S.-3i S.-5kd M.qx.qh M.w.ld M.w.lw X S.-6ao",
  "S.-6ap S.-6aq S.-6ar S.-6as S.-6at S.-6au S.-6av S.-6aw S.-6ax S.-6ay I V2 X2 V S.-1 V5 M.w.mr",
  "Vc X3 V X7 S.-6bz V3 M.6cy.6cy M.6cy.6cy.6cy V M.6d1.6d1 M.6d1.6d1.6d1 V4 M.x.x V M.w.lh V8",
  "M.1r.1r M.1r.x M.x.1r Vd M.6cy.6cy.6cy.6cy V7 S.-6db I5 X5 I6 S.-6dc S.-6bs X2 S6.-6dc S.-6dr",
  "S.bb S.-6db S2.-6dx S.-6c1 Sa.-6ds S.-6e7 S.av S.-6dr S2.-6ed X S.-6cv S.-6cs S.-6cj S.-6cb",
  "S.-5yz S.-6ct S4.-6cr S.-6cq S2.-6co X3 V8 M.36.37 Vp Xe Vx Xf M.2p.1b.2r M.2p.1b.37 S.-6fz",
  "M.4w.2r V M.2r.1b.33 M.2r.1b.39 S.-624 V M.4w.2u S2.-6g3 S.-6g4 S.-6g5 S.-6g6 S.-6aw S.-6g7",
  "S.-6g8 S.-6g6 S.-6g7 V S.-6g7 M.32.33 V2 S3.-6g9 S.-6ga S.-6gb V2 M.37.31 M.38.2t.30 M.38.31 V",
  "S.-6ga V S.-5st V S.-6ge V S.-6gv S.-6di S2.-6h6 V S.-6h6 S2.-6h7 S.s S.-6h2 S.-6h1 S4.-5et",
  "S.-6hc V M.2u.2p.3c S.-5to S.-5u2 S.-5u3 S.-5tr S.5t V4 S.-6ht S2.-6hu S2.-6hr V6 M.1d.6dg.1j",
  "M.1d.6dg.1l M.1d.6dg.1d.1c M.1d.6dg.1f M.1e.6dg.1f M.1d.6dg.1h M.1e.6dg.1h M.1f.6dg.1h",
  "M.1g.6dg.1h M.1d.6dg.1i M.1h.6dg.1i M.1d.6dg.1k M.1f.6dg.1k M.1h.6dg.1k M.1j.6dg.1k M.1d.6dg",
  "S.-6if M.2x.2x M.2x.2x.2x M.2x.3a S.-6i6 M.3a.2x M.3a.2x.2x M.3a.2x.2x.2x M.2x.3c S.-6i9",
  "M.3c.2x M.3c.2x.2x S.-6io S2.-6iy S.-6iq S.-6iv M.2x.2x M.2x.2x.2x M.2x.3a S.-6im M.3a.2x",
  "M.3a.2x.2x M.3a.2x.2x.2x M.2x.3c S.-6ip M.3c.2x M.3c.2x.2x S.-6j4 S2.-6je S.-6j6 V3 S.1 V5",
  "M.1c.6dg.1f V2 X4 V4c M.6qz.6qz M.6qz.6qz.6qz V M.6r2.6r2 M.6r2.6r2.6r2 V6w S2.2jj V73 Xm Vb",
  "Xl S9.-75b M.1d.1c M.1d.1d M.1d.1e M.1d.1f M.1d.1g M.1d.1h M.1d.1i M.1d.1j M.1d.1k M.1d.1l",
  "M.1e.1c M.14.1d.15 M.14.1e.15 M.14.1f.15 M.14.1g.15 M.14.1h.15 M.14.1i.15 M.14.1j.15",
  "M.14.1k.15 M.14.1l.15 M.14.1d.1c.15 M.14.1d.1d.15 M.14.1d.1e.15 M.14.1d.1f.15 M.14.1d.1g.15",
  "M.14.1d.1h.15 M.14.1d.1i.15 M.14.1d.1j.15 M.14.1d.1k.15 M.14.1d.1l.15 M.14.1e.1c.15 Xk",
  "M.14.2p.15 M.14.2q.15 M.14.2r.15 M.14.2s.15 M.14.2t.15 M.14.2u.15 M.14.2v.15 M.14.2w.15",
  "M.14.2x.15 M.14.2y.15 M.14.2z.15 M.14.30.15 M.14.31.15 M.14.32.15 M.14.33.15 M.14.34.15",
  "M.14.35.15 M.14.36.15 M.14.37.15 M.14.38.15 M.14.39.15 M.14.3a.15 M.14.3b.15 M.14.3c.15",
  "M.14.3d.15 M.14.3e.15 Sq.-76d Sq.-773 S.-796 V10h M.6qz.6qz.6qz.6qz V2v M.1m.1m.1p M.1p.1p",
  "M.1p.1p.1p V2t M.8gt.mw V47 X2 V3u S1c.1c V1c S.1 V S.-8af S.-2xy S.-89z V2 A6 S.-8bg S.-8al",
  "S.-8bj S.-8bi V S.1 V2 S.1 V6 S.-8pe S.-8p3 S2.-8cf A2s V7 A4 V3 S.1 V X5 V19 X V X5 V X2 V1k",
  "X7 S.-e V Xe Vo X9 V7 X V7 X V7 X V7 X V7 X V7 X V7 X V7 X V3i Xy Vq X V4 S.c32 V2b S.m98 Xc",
  "S.64g S.65j S.65w S.664 S.66t S.680 S.686 S.68p S.69e S.6ra S.6sb S.6sg S.6t2 S.6tl S.6u5",
  "S.6vl S.6w5 S.6wf S.70p S.73a S.741 S.745 S.74y S.756 S.75w S.768 S.76w S.78b S.78s S.79i",
  "S.7uh S.7wg S.897 S.89t S.8a0 S.8aa S.8ar S.8cu S.8q2 S.8rd S.8uo S.8va S.8vs S.8wd S.8xu",
  "S.8xw S.97x S.986 S.98h S.98t S.9c0 S.9c7 S.9cb S.9fj S.9fs S.9g4 S.9gb S.9hz S.9if S.9iw",
  "S.9l3 S.a17 S.a2g S.a30 S.anj S.ann S.apx S.aqc S.aqo S.ar8 S.asa S.ase S.azs S.b0f S.b1a",
  "S.bth S.bva S.bvw S.bxh S.by4 S.byc S.byi S.bzx S.c01 S.c0w S.cuu S.d78 S.d7j S.d7n S.d7q",
  "S.d7x S.d8e S.d8f S.dan S.dgm S.dgq S.dq4 S.dqd S.drq S.drw S.ds4 S.dsb S.dut S.duz S.e1a",
  "S.e1g S.e2s S.e38 S.e4i S.eb2 S.eb8 S.ebo S.ekq S.eo7 S.eoc S.etd S.evr S.ex0 S.f7h S.fb5",
  "S.fr2 S.frs S.ftc S.fuq S.fwl S.fwv S.fx0 S.fxw S.fzz S.g08 S.g9t S.g9z S.ga7 S.gaf S.gau",
  "S.gb8 S.gbb S.gdh S.gdk S.gdp S.h4x S.h5q S.hiq S.hj1 S.hjn S.hrh S.hrt S.htr S.hv0 S.iaq",
  "S.ib4 S.ibi S.icg S.idg S.iiy S.ij9 S.il3 S.iry S.iss S.iyk S.iz4 S.iz8 S.j5b S.jae S.jdu",
  "S.jdz S.je3 S.k40 S.k48 S.k8j S.kcs S.kcu S.ke4 S.kh0 S.khc S.khf S.khl S.kka S.kl7 S.klc",
  "S.klp S.kqb S.krp S.krs S.kwu S.kww S.kxe S.l4d S.l5o S.l5u S.l7r S.l80 S.l82 S.l8b S.l94",
  "S.lk2 S.lv5 S.lve S.lwf S.lx0 S.lx7 S.lxg S.lxj S.lym S.lyp S.lz5 S.lz9 S.lzl S.m0b S.m0p",
  "S.m0w S.m2i S.m2w S.m2z X16 S.-9gg V S.-9g4 V1f S.-10 V S.6x5 S2.6x7 V5 X V2e X2 V2 M.w.9ll",
  "M.w.9lm V2 M.9l4.9l6 V2n M.9mb.9mw X5 V17 X S2.-6cx S.-689 S.-6cy S2.-689 S3.-6d0 S6.-68a",
  "S.-6cm S3.-6d7 S.-6cj Sa.-6d8 Sl.-6b2 I S2.-6dt S2.-68w S.-68t S.-68s S.-68o S.-68l S.-68k",
  "S.-6du S.-68i S.-68h S2.-6dw S.-6dv S2.-6du S.-6dr S.-6dq S5.-6dp S.-6dn S.-6dk S.-6db S.-6d5",
  "S.-6d1 S2.-68h S3.-6ct S2.-6bn S.-6bl S2.-6bd S.-6bc S.-6b3 S.-6b1 X V2 S.5m6 S.5q1 S.5md",
  "S.7d2 S.5mc S.5na S.5mb S.dcp S.5of S.5mm S.5lx S.7t8 S.7f6 S.5qz V1y Xa Vg M.14.3cw.15",
  "M.14.3cy.15 M.14.3cz.15 M.14.3d1.15 M.14.3d2.15 M.14.3d3.15 M.14.3d5.15 M.14.3d7.15",
  "M.14.3d8.15 M.14.3da.15 M.14.3db.15 M.14.3dc.15 M.14.3dd.15 M.14.3de.15 M.14.xz4.15",
  "M.14.yvs.15 M.14.zc4.15 M.14.108s.15 M.14.10p4.15 M.14.115g.15 M.14.1224.15 M.14.12ys.15",
  "M.14.13f4.15 M.14.14bs.15 M.14.14s4.15 M.14.158g.15 M.14.15os.15 M.14.1654.15 M.14.13p8.15",
  "M.14.1350.13ic.15 M.14.1350.16f8.15 X M.14.feo.15 M.14.fik.15 M.14.fex.15 M.14.h5n.15",
  "M.14.fis.15 M.14.g31.15 M.14.fer.15 M.14.g2z.15 M.14.fh9.15 M.14.gg1.15 M.14.kco.15",
  "M.14.m7f.15 M.14.ldg.15 M.14.kdk.15 M.14.ssx.15 M.14.h7j.15 M.14.k4l.15 M.14.kkq.15",
  "M.14.kcp.15 M.14.ny6.15 M.14.glp.15 M.14.mm1.15 M.14.rs1.15 M.14.nz1.15 M.14.gc4.15",
  "M.14.fkz.15 M.14.gos.15 M.14.i1y.15 M.14.nhf.15 M.14.flt.15 M.14.rt3.15 M.14.ggk.15",
  "M.14.nzh.15 M.14.fm9.15 M.14.pnu.15 M.14.po3.15 S.6x7 S.8qf S.a4h S.eh4 V8 M.34.38.2t M.1e.1d",
  "M.1e.1e M.1e.1f M.1e.1g M.1e.1h M.1e.1i M.1e.1j M.1e.1k M.1e.1l M.1f.1c M.1f.1d M.1f.1e",
  "M.1f.1f M.1f.1g M.1f.1h S.-6lc S2.-6lb S3.-6la S.-6l9 S2.-6l8 S5.-6l7 S.o0i S.ox5 S.pdg S.qa3",
  "S.qqe S.r6p S.s3c S.szz S.tga S.ucx S.ut8 S.v9j S.vpu S.w65 M.14c8.y5c M.13p8.13dk S.t9u V",
  "S.5fk S.5jf S.5fr S.76g S.5jk S.63s S.5fh S.63o S.5hx S.6go S.ada S.c80 S.be0 S.ae3 S.itf",
  "S.780 S.a51 S.al5 S.ad3 S.dyj S.6m1 S.cmc S.hsb S.dza S.6cc S.e2n S.d5p S.7o8 S.ij1 S.619",
  "S.6he S.bih S.k11 S.5m8 S.647 S.b7k S.5eu S.5fs S.5et S.8jj S.6kr S.6fm S.831 S.81n S.dh3",
  "S.5lg S.hsp S.6g5 S.7l8 M.1f.1i M.1f.1j M.1f.1k M.1f.1l M.1g.1c M.1g.1d M.1g.1e M.1g.1f",
  "M.1g.1g M.1g.1h M.1g.1i M.1g.1j M.1g.1k M.1g.1l M.1h.1c M.1d.kco M.1e.kco M.1f.kco M.1g.kco",
  "M.1h.kco M.1i.kco M.1j.kco M.1k.kco M.1l.kco M.1d.1c.kco M.1d.1d.kco M.1d.1e.kco M.2w.2v",
  "M.2t.36.2v M.2t.3a M.30.38.2s S.-fi S.-fh S.-fg S.-ff S2.-fe S.-fd S.-fc S.-fb S.-fa S.-f9",
  "S.-f8 S.-f7 S.-f6 S.-f5 S.-f4 S.-f3 S.-f1 S.-f0 S.-ez S6.-ey S.-ew S.-eu S.-es S.-eq S5.-eo",
  "S.-en S.-em S6.-el S4.-ek M.fl0.gp8 M.9lu.9n5.9oc.9mw M.9lu.9nv.9n9.9lt M.9lu.9o3.9ne.9lu",
  "M.9lu.9oc.9nv M.9lw.9mz.9o3.9m8 M.9lw.9o3.9mp M.9ly.9m1.9o3 M.9m0.9mh.9m7.9oc.9mx",
  "M.9m0.9oc.9m3.9oc M.9m2.9o3.9mh M.9m2.9oc.9nk M.9m3.9lw.9nu M.9m3.9nt.9mr.9mw",
  "M.9m3.9nx.9nu.9oc M.9m4.9nx.9o3 M.9m4.9o3.9ni M.9m6.9m4 M.9m6.9mz.9oc M.9m5.9np.9nu.9oc",
  "M.9m6.9nv.9mo.9oc M.9m5.9nx M.9m5.9nx.9m8.9nt.9nk M.9m5.9nx.9nl.9oc.9mw.9nv",
  "M.9m5.9nx.9nz.9mr.9mw M.9m8.9nt.9nk M.9m8.9nt.9nk.9mw.9o3 M.9m7.9nv.9mk.9lw.9nx",
  "M.9m7.9nx.9oc.9n1 M.9m9.9oc.9mh M.9mb.9nv.9my M.9mb.9oc.9nh M.9md.9lw.9m7.9nv",
  "M.9md.9o3.9mp.9oc.9nk M.9mf.9nu.9o3.9m8 M.9mj.9o3.9mp M.9mj.9o3.9mw M.9mo.9oc.9mh M.9mv.9mf",
  "M.9mx.9nv M.9mw.9o3 M.9my.9n2 M.9n2.9mr.9mw M.9n3.9lw.9ms M.9n5.9oc.9mj.9o3.9mw M.9n5.9oc.9ms",
  "M.9n4.9oc.9nw.9nv M.9n8.9lu.9mh.9mw.9nv M.9n8.9m7.9nv M.9n8.9mb M.9n7.9nv",
  "M.9n9.9lt.9nt.9mr.9mx M.9n9.9lv.9oc.9mw M.9na.9mr.9mf.9lz.9nv M.9n9.9nt.9o3",
  "M.9nc.9m7.9mn.9oc.9nv M.9ne.9ml M.9ne.9mz.9n6 M.9nc.9nv.9ms M.9ne.9o3.9mh M.9ne.9oc.9mg",
  "M.9nd.9oc.9mn M.9nh.9lw.9o3.9mw M.9ng.9nv.9mw M.9nf.9o3 M.9nh.9o3.9mx M.9nf.9oc.9nv",
  "M.9nf.9oc.9o3 M.9ni.9lw.9m7.9nx M.9ni.9lw.9nv M.9ni.9mr.9n3 M.9ni.9nv.9m7",
  "M.9ni.9o3.9mf.9nr.9o3 M.9nj.9m7.9nx.9o3 M.9nj.9nu M.9nj.9nu.9n4.9oc.9nv M.9nl.9m4",
  "M.9nl.9m4.9mw.9o3 M.9nl.9oc.9mw.9nv M.9no.9oc.9mx M.9no.9oc.9nv M.9nq.9lu.9o3",
  "M.9nu.9mr.9mw.9nv M.9nu.9nt M.9nv.9n8.9oc M.9nv.9oc.9na.9nv M.9nw.9nk M.9nw.9o3.9mw.9ma.9o3",
  "M.9nz.9mr.9mw M.1c.m9l M.1d.m9l M.1e.m9l M.1f.m9l M.1g.m9l M.1h.m9l M.1i.m9l M.1j.m9l M.1k.m9l",
  "M.1l.m9l M.1d.1c.m9l M.1d.1d.m9l M.1d.1e.m9l M.1d.1f.m9l M.1d.1g.m9l M.1d.1h.m9l M.1d.1i.m9l",
  "M.1d.1j.m9l M.1d.1k.m9l M.1d.1l.m9l M.1e.1c.m9l M.1e.1d.m9l M.1e.1e.m9l M.1e.1f.m9l",
  "M.1e.1g.m9l M.2w.34.2p M.2s.2p M.2p.39 M.2q.2p.36 M.33.3a M.34.2r M.2s.31 M.2s.31.1e",
  "M.2s.31.1f M.2x.39 M.inn.jdc M.k6l.gp8 M.hlz.l7n M.k5q.lh7 M.kkq.irz.fmi.ny6 M.34.2p M.32.2p",
  "M.qk.2p M.31.2p M.2z.2p M.2z.2q M.31.2q M.2v.2q M.2r.2p.30 M.2z.2r.2p.30 M.34.2u M.32.2u",
  "M.qk.2u M.qk.2v M.31.2v M.2z.2v M.2w.3e M.2z.2w.3e M.31.2w.3e M.2v.2w.3e M.38.2w.3e M.qk.30",
  "M.31.30 M.2s.30 M.2z.30 M.2u.31 M.32.31 M.qk.31 M.31.31 M.2r.31 M.2z.31 M.31.31.1e M.2r.31.1e",
  "M.31.1e M.2z.31.1e M.31.31.1f M.2r.31.1f M.31.1f M.2z.31.1f M.31.6qd.37 M.31.6qd.37.1e M.34.2p",
  "M.2z.34.2p M.31.34.2p M.2v.34.2p M.36.2p.2s M.36.2p.2s.6qd.37 M.36.2p.2s.6qd.37.1e M.34.37",
  "M.32.37 M.qk.37 M.31.37 M.34.3a M.32.3a M.qk.3a M.31.3a M.2z.3a M.31.3a M.34.3b M.32.3b",
  "M.qk.3b M.31.3b M.2z.3b M.31.3b M.2z.qx M.31.qx X M.2q.35 M.2r.2r M.2r.2s M.2r.6qd.2z.2v X",
  "M.2s.2q M.2v.3d M.2w.2p M.2w.34 M.2x.32 M.2z.2z M.2z.31 M.2z.38 M.30.31 M.30.32 M.30.33.2v",
  "M.30.3c M.31.2q M.31.2x.30 M.31.33.30 M.34.2w X M.34.34.31 M.34.36 M.37.36 M.37.3a M.3b.2q",
  "M.3a.6qd.31 M.2p.6qd.31 M.1d.k4l M.1e.k4l M.1f.k4l M.1g.k4l M.1h.k4l M.1i.k4l M.1j.k4l",
  "M.1k.k4l M.1l.k4l M.1d.1c.k4l M.1d.1d.k4l M.1d.1e.k4l M.1d.1f.k4l M.1d.1g.k4l M.1d.1h.k4l",
  "M.1d.1i.k4l M.1d.1j.k4l M.1d.1k.k4l M.1d.1l.k4l M.1e.1c.k4l M.1e.1d.k4l M.1e.1e.k4l",
  "M.1e.1f.k4l M.1e.1g.k4l M.1e.1h.k4l M.1e.1i.k4l M.1e.1j.k4l M.1e.1k.k4l M.1e.1l.k4l",
  "M.1f.1c.k4l M.1f.1d.k4l M.2v.2p.30 Vm8d X3 V1j X9 V9o Xk A1a Vi As S.-w2a S.-w29 V2i X8 Vy Ae",
  "V2 A1q S.-1 V8 A4 S.-r9g Aa V3 S.1 V S.-wmg V2 A4 V2 Ak S.-wn8 S.-wnj S.-wnf S.-wn5 S.-wn8 V",
  "S.-wlu S.-wmi S.-wlx S.ps Ag S.-1c S.-wn7 S.-raw A4 S.-wo7 Ag S.-wu9 Xk S.-x32 S.-x3j S.-x3h",
  "S.-x37 S.1 V2 S.-wy9 S.-wx2 V1f X3 Va X6 V1k X8 V1y X8 Vc X6 V38 Xb Vu X3 V26 X Vb X4 Vx X V1j",
  "X9 Ve X2 Va X2 V2v Xo Vs Xa V6 X2 V6 X2 V6 X9 V7 X V7 X V18 S.-tx S.-12 S.-xdf S.-d V9 S.-xcs",
  "V2 X4 S28.-tzk V1a X2 Va X6 V8mc Xc Vn X4 V1d X6is S.-lh4 S.-sul S.-kzc S.-ldn S.-rar S.-xqr",
  "S.-wm9 S.-hnv S.-hnw S.-vjs S.-ke1 S.-was S.-vk4 S.-tuf S.-pt1 S.-o0a S.-moh S.-mdz S.-m56",
  "S.-kn8 S.-s9e S.-rne S.-qwt S.-qbd S.-n2z S.-khb S.-isp S.-xp5 S.-wpz S.-s2h S.-qo3 S.-mpe",
  "S.-hz6 S.-us1 S.-r3r S.-ms6 S.-m2o S.-tp8 S.-nke S.-mbs S.-uhq S.-suq S.-rls S.-qi7 S.-km6",
  "S.-xif S.-x2v S.-wup S.-tbg S.-s4e S.-qoy S.-pqk S.-nxv S.-mr3 S.-moq S.-l6w S.-jd2 S.-iiy",
  "S.-i0w S.-pf3 S.-p8d S.-of1 S.-n79 S.-k6z S.-hxd S.-lt7 S.-voj S.-ugv S.-oo4 S.-nuv S.-qn8",
  "S.-pdp S.-lfq S.-jf6 S.-voy S.-uzt S.-sah S.-rjn S.-rb3 S.-oio S.-obd S.-jk6 S.-ww0 S.-nuw",
  "S.-x2w S.-x3d S.-p4q S.-oex S.-n6v S.-jj8 S.-lp6 S.-tqk S.-sbe S.-lsv S.-xt1 S.-v3s S.-ua6",
  "S.-qfu S.-q2a S.-wuk S.-pd5 S.-xie S.-ud9 S.-xui S.-rrw S.-t81 S.-ojs S.-wq0 S.-vta S.-prg",
  "S.-n51 S.-lvp S.-rzq S.-kw1 S.-ru2 S.-tpx S.-nf3 S.-tlh S.-q35 S.-xqh S.-x73 S.-x4g S.-smx",
  "S.-olw S.-nil S.-luz S.-khb S.-wwa S.-wn2 S.-vm6 S.-uja S.-t6m S.-r5y S.-pcr S.-jq1 S.-isd",
  "S.-hyp S.-hx7 S.-wz3 S.-szp S.-s2d S.-kyz S.-umy S.-u0v S.-txs S.-tfb S.-rcf S.-qx6 S.-qa3",
  "S.-p8r S.-of6 S.-nxk S.-l0y S.-n1n S.-ktz S.-k7l S.-x39 S.-wze S.-wkh S.-r13 S.-mam S.-lx3",
  "S.-ul5 S.-ucu S.-tnt S.-s1j S.-ors S.-qia S.-xqc S.-w4w S.-v5v S.-usx S.-uc0 S.-qgr S.-qbp",
  "S.-o45 S.-nze S.-kfx S.-ji4 S.-jfv S.-ja4 S.-xm2 S.-pag S.-kjn S.-jk0 S.-u6w S.-xtg S.-xcx",
  "S.-v66 S.-v3y S.-t9h S.-se5 S.-quq S.-pz3 S.-n2e S.-ksn S.-htj S.-t31 S.-jo8 S.-x1a S.-swd",
  "S.-st2 S.-rrd S.-rhr S.-qf7 S.-q5w S.-pk3 S.-on3 S.-j8y S.-x9g S.-tyc S.-jmj S.-xih S.-uyk",
  "S.-rn0 S.-l2l S.-uh9 S.-u51 S.-ssj S.-qj8 S.-jme S.-x4k S.-wr3 S.-v3u S.-t71 S.-syb S.-soq",
  "S.-rum S.-qfy S.-q2r S.-o6l S.-mc8 S.-mbr S.-kkd S.-jk8 S.-wx8 S.-rhu S.-wr4 S.-qvy S.-qc7",
  "S.-mwm S.-jm6 S.-ihn S.-i1g S.-swt S.-roq S.-npq S.-p4c S.-p20 S.-orr S.-qpm S.-r4y S.-lus",
  "S.-xtp S.-ngo S.-x51 S.-x6h S.-uor S.-tv3 S.-oq5 S.-vb3 S.-rtz S.-t3m S.-l3g S.-mgs S.-jp8",
  "S.-m7z S.-uns S.-xcc S.-wgd V2 S.-vxy V S.-t5q V2 S.-x87 S.-qng S.-pxp S.-pgc S.-pff S.-pf9",
  "S.-pe4 S.-jie S.-orj S.-o69 V S.-mxa V S.-lyi V2 S.-kx9 S.-krt V3 S.-j7f S.-j73 S.-j5w S.-i9l",
  "S.-ksw S.-jnc S.-xoi S.-xfu S.-xd1 S.-x2i S.-x1s S.-wys S.-wih S.-wfl S.-wcw S.-vzt S.-vwy",
  "S.-v6f S.-v66 S.-ucp S.-u6u S.-u5t S.-u32 S.-tf6 S.-tb4 S.-t6a S.-ssf S.-rta S.-ros S.-rhh",
  "S.-r16 S.-qvy S.-qi0 S.-pmi S.-phq S.-phg S.-phi S.-phb S.-ph6 S.-ph0 S2.-pfp S.-pas S.-p90",
  "S.-p06 S.-okj S.-ojz S.-oig S.-oa0 S.-o5y S.-nsf S.-nok S.-nol S.-nbc S.-mds S.-ma3 S.-m01",
  "S.-lyi S.-ln5 S.-llp S.-l2o S.-kz3 S.-jnp S.-jfu S.-je7 S.-ueu S.1sw2 S.-nrp X2 S.-y16 S.-xbw",
  "S.-xe2 S.-xrn S.-xf3 S.-xdh S.-x4f S.-x31 S.-wkb S.-wmc S.-wkh S.-wih S.-w0y S.-vyi S.-vui",
  "S.-vu3 S.-vmm S.-vh5 S.-ur4 S.-uqy S.-umz S.-ul4 S.-ucu S.-u9l S.-ubk S.-u7v S.-u96 S.-u55",
  "S.-u3c S.-ts9 S.-tpu S.-tod S.-th6 S.-t99 S.-t4r S.-t4o S.-t32 S.-s9o S.-s7w S.-rx2 S.-rlp",
  "S.-rm6 S.-rjs S.-rct S.-r3i S.-pva S.-qy1 S.-quo S.-qra S.-qi8 S.-qe4 S.-qco S.-q6f S.-q6e",
  "S.-q1o S.-q18 S.-q0k S.-py7 S.-pyi S.-pnj S.-pa3 S.-p2l S.-oxf S.-or8 S.-on0 S.-odv S.-o8d",
  "S.-nkx S.-ngl S.-mrg S.-met S.-mcx S.-mci S.-m4a S.-m2q S.-m40 S.-m2j S.-m2n S.-m35 S.-m12",
  "S.-lyu S.-lo9 S.-l8q S.-l01 S.-krv S.-klr S.-jt6 S.-jqc S.-jn6 S.-jji S.-jij S.-ji8 S.-jgx",
  "S.-iwr S.-i0i S.1njv S.1njo S.1ptw S.-11rp S.-10vv S.-10uz S.1vuc S.1xx6 S.24n0 S.-i39 S.-i17",
  "X12 M.2u.2u M.2u.2x M.2u.30 M.2u.2u.2x M.2u.2u.30 M2.37.38 Xc M.12s.12u M.12s.12d M.12s.12j",
  "M.132.12u M.12s.12l X5 M.15l.14k V M.16a.14n S.-1cfy S.-1cgh S2.-1cgf S3.-1cg9 S.-1cfz S.-1cfy",
  "S.-1dku M.161.14x M.161.14y M.161.14s.14x M.161.14s.14y M.15c.14n M.15c.14o M.15c.14s",
  "M.15d.14s M.15e.14s M.15f.14s M.15g.14s M.15h.14s M.15i.14s X M.15k.14s M.15l.14s M.15m.14s",
  "M.15n.14s M.15o.14s X M.15q.14s X M.15s.14s M.15t.14s X M.15v.14s M.15w.14s X M.15y.14s",
  "M.15z.14s M.160.14s M.161.14s M.162.14s M.15h.14p M.15d.14v M.15n.14v M.15w.14v M.15c.15o",
  "S.-1cdb S.-1cdc S.-1cd3 S.-1cd4 S.-1cd5 S.-1cd6 S.-1cd4 S.-1cd5 S.-1cd6 S.-1cd7 S.-1cd6",
  "S.-1cd7 S.-1cd8 S.-1cd9 S.-1cdg S.-1cdh S.-1cdi S.-1cdj S.-1cdf S.-1cdg S.-1cdh S.-1cdi",
  "S.-1cdp S.-1cdq S.-1cdr S.-1cds S.-1ccm S.-1ccn S.-1cco S.-1ccp S.-1cco S.-1ccp S.-1ccq",
  "S.-1ccr S.-1cdq S.-1cdr S.-1cds S.-1cdt S.-1cdv S.-1cdw S.-1cdx S.-1cdy S.-1cdw S.-1cdx",
  "S.-1cdy S2.-1cdz S.-1ce0 S.-1ce1 S.-1ce2 S.-1cdx S.-1cdy S.-1ce0 S.-1ce1 S.-1ce0 S.-1ce1",
  "S.-1ce8 S.-1ce9 S.-1cdu S.-1cdv S.-1ce3 S.-1ce4 S.-1cdh S.-1cdi S.-1cdj S.-1cdk S.-1cdf",
  "S.-1cdg S.-1cdh S.-1cdi S.-1cdf S.-1cdg S.-1cdh S.-1cdi S.-1cdl S.-1cdm S.-1cdn S.-1cdo",
  "S.-1cdg S2.-1cdh S.-1cdi S.-1cdj S.-1cdk S.-1cdg S2.-1cdh S.-1cdi S.-1cdj S.-1cdk S.-1cdo",
  "S.-1cdp S.-1cdq S.-1cdr S.-1cd8 S2.-1cd9 S.-1cda Vx S.-1cfa S.-1cfb S.-1cfc S.-1cfd S.-1ceo",
  "S.-1cep S.-1cer S.-1ces S.-1cer S.-1ces M.1c7.19w S.-1cer S.-1ces S.-1cez S.-1cf0 S.-1cex",
  "S.-1cey S.-1ces S.-1cet S.-1ceu S.-1cev S.-1cin S.-1cio M2.17q.17r M2.17q.1cl M2.17q.18o",
  "M2.17q.1c7 M2.17q.1c6 M2.17q.1c8 M3.17q.1cg M3.17q.18p S.-1cfk S.-1cfl S.-1cfm S.-1cfn",
  "M.17q.17w M.17q.17x M.17q.18l M.17q.18p M.17q.18q M.17s.17w M.17s.17x M.17s.17y M.17s.18l",
  "M.17s.18p M.17s.18q M.17u.17w M.17u.17x M.17u.17y M.17u.18l M.17u.18p M.17u.18q M.17v.17w",
  "M.17v.18l M.17v.18p M.17v.18q M.17w.17x M.17w.18l M.17x.17w M.17x.18l M.17y.17w M.17y.17x",
  "M.17y.18l M.183.17w M.183.17x M.183.17y M.183.18l M.185.17x M.185.18l M.186.17w M.186.17x",
  "M.186.17y M.186.18l M.187.17x M.187.18l M.188.18l M.189.17w M.189.18l M.18a.17w M.18a.18l",
  "M.18h.17w M.18h.17x M.18h.17y M.18h.18l M.18h.18p M.18h.18q M.18i.17x M.18i.18l M.18i.18p",
  "M.18i.18q M.18j.17r M.18j.17w M.18j.17x M.18j.17y M.18j.18k M.18j.18l M.18j.18p M.18j.18q",
  "M.18k.17w M.18k.17x M.18k.17y M.18k.18l M.18k.18p M.18k.18q M.18l.17w M.18l.17x M.18l.17y",
  "M.18l.18l M.18l.18p M.18l.18q M.18m.17w M.18m.17x M.18m.17y M.18m.18l M.18m.18p M.18m.18q",
  "M.18n.17w M.18n.18l M.18n.18p M.18n.18q M.18q.17w M.18q.17x M.18q.17y M.18q.18l M.18q.18p",
  "M.18q.18q M.180.19s M.181.19s M.18p.19s M.w.18s.18x M.w.18t.18x M.w.18u.18x M.w.18v.18x",
  "M.w.18w.18x M.w.18x.19s M.17q.181 M.17q.182 M.17q.18l M.17q.18m M.17q.18p M.17q.18q M.17s.181",
  "M.17s.182 M.17s.18l M.17s.18m M.17s.18p M.17s.18q M.17u.181 M.17u.182 M.17u.18l M.17u.18m",
  "M.17u.18p M.17u.18q M.17v.181 M.17v.182 M.17v.18l M.17v.18m M.17v.18p M.17v.18q M.18h.18p",
  "M.18h.18q M.18i.18p M.18i.18q M.18j.17r M.18j.18k M.18j.18l M.18j.18p M.18j.18q M.18k.18l",
  "M.18k.18p M.18k.18q M.18l.17r M.18l.18l M.18m.181 M.18m.182 M.18m.18l M.18m.18m M.18m.18p",
  "M.18m.18q M.18p.19s M.18q.181 M.18q.182 M.18q.18l M.18q.18m M.18q.18p M.18q.18q M.17q.17w",
  "M.17q.17x M.17q.17y M.17q.18l M.17q.18n M.17s.17w M.17s.17x M.17s.17y M.17s.18l M.17s.18n",
  "M.17u.17w M.17u.17x M.17u.17y M.17u.18l M.17u.18n M.17v.18l M.17w.17x M.17w.18l M.17x.17w",
  "M.17x.18l M.17y.17w M.17y.18l M.183.17w M.183.17x M.183.17y M.183.18l M.185.17x M.185.17y",
  "M.185.18l M.186.17w M.186.17x M.186.17y M.186.18l M.187.17x M.188.18l M.189.17w M.189.18l",
  "M.18a.17w M.18a.18l M.18h.17w M.18h.17x M.18h.17y M.18h.18l M.18i.17x M.18i.18l M.18j.17w",
  "M.18j.17x M.18j.17y M.18j.18k M.18j.18l M.18k.17w M.18k.17x M.18k.17y M.18k.18l M.18k.18n",
  "M.18l.17w M.18l.17x M.18l.17y M.18l.18l M.18m.17w M.18m.17x M.18m.17y M.18m.18l M.18m.18n",
  "M.18n.17w M.18n.18l M.18n.19s M.18q.17w M.18q.17x M.18q.17y M.18q.18l M.18q.18n M.17q.18l",
  "M.17q.18n M.17s.18l M.17s.18n M.17u.18l M.17u.18n M.17v.18l M.17v.18n M.183.18l M.183.18n",
  "M.184.18l M.184.18n M.18j.18k M.18j.18l M.18k.18l M.18m.18l M.18m.18n M.18q.18l M.18q.18n",
  "M.18g.18u.18x M.18g.18v.18x M.18g.18w.18x M.187.18p M.187.18q M.189.18p M.189.18q M.18a.18p",
  "M.18a.18q M.183.18p M.183.18q M.184.18p M.184.18q M.17x.18p M.17x.18q M.17w.18p M.17w.18q",
  "M.17y.18p M.17y.18q M.185.18p M.185.18q M.186.18p M.186.18q M.184.17w M.184.17x M.184.17y",
  "M.184.18l M.184.181 M.183.181 M.185.181 M.186.181 M.187.18p M.187.18q M.189.18p M.189.18q",
  "M.18a.18p M.18a.18q M.183.18p M.183.18q M.184.18p M.184.18q M.17x.18p M.17x.18q M.17w.18p",
  "M.17w.18q M.17y.18p M.17y.18q M.185.18p M.185.18q M.186.18p M.186.18q M.184.17w M.184.17x",
  "M.184.17y M.184.18l M.184.181 M.183.181 M.185.181 M.186.181 M.184.17w M.184.17x M.184.17y",
  "M.184.18l M.183.18n M.184.18n M.187.18l M.183.17w M.183.17x M.183.17y M.184.17w M.184.17x",
  "M.184.17y M.187.18l M.188.18l M2.17r.18r Vi M.17u.17w.18l M2.17u.17x.17w M.17u.17x.18l",
  "M.17u.17y.18l M.17u.18l.17w M.17u.18l.17x M.17u.18l.17y M2.17w.18l.17x M.17x.18l.18q",
  "M.17x.18l.18p M.183.17x.17w M.183.17w.17x M.183.17w.18p M2.183.18l.17x M.183.18l.17w",
  "M2.183.18l.18l M2.185.17x.17x M.185.18l.18l M2.184.17x.18l M.184.17w.18q M2.184.18l.17y",
  "M2.184.18l.18l M.186.17x.18p M2.186.17y.18l M2.187.18l.17x M.187.18l.18l M.187.18l.18q",
  "M.189.17w.18l M2.189.18l.18l M.189.18l.18p M.18a.18l.18l M.18a.18l.18q M.18a.18l.18p",
  "M2.18h.17y.18l M.18i.18l.17x M.18i.18l.18l M.18k.17x.18l M.18k.17x.18q M.18k.17x.18p",
  "M2.18k.17w.17w M2.18k.17y.18l M2.18k.18l.17x M.18l.17x.17w M.18l.17x.18l M.18l.17x.18q",
  "M.18l.17w.17x M.18l.17w.18l M.18l.17y.17w M.18l.17y.18l V2 M.18l.17w.17y M.18n.18l.17w",
  "M.18n.18l.18l M.18m.17x.18l M.18m.17x.18p M2.18m.17w.18l M.18m.17w.18p M.18m.18l.18q",
  "M.18m.18l.18p M2.18q.18l.18l M.17s.17y.18q M.17u.17w.18q M.17u.17w.18p M.17u.17y.18q",
  "M.17u.17y.18p M.17u.18l.18q M.17u.18l.18p M.17w.18l.18q M.17w.17x.18p M.17w.18l.18p",
  "M.183.17y.18p M.185.17x.18q M.184.17x.18q M.186.17x.18q M.18k.17w.18q M.18k.18l.18q",
  "M.18q.17x.18q M.18q.17w.18q M.18q.18l.18q M.18l.18l.18q M.18i.18l.18q M.18m.17x.18q",
  "M.18i.18l.17x M.18k.17x.18l M.189.18l.18q M.18j.18l.18q M.18m.17w.17x M.18l.17y.18q",
  "M.18k.17w.18l M.18j.18l.18l M.18k.17w.18l M.18m.17w.17x M.17w.17x.18q M.17x.17w.18q",
  "M.18l.17w.18q M.18h.18l.18q M.17s.17x.18q M.18j.18l.18l M.189.17w.18l M.185.18l.18l",
  "M.183.17y.18q M.18m.17w.18q V8 Xw M.185.18k.1ci M.18i.18k.1ci M.17r.18k.18k.18n",
  "M.17r.18j.17s.181 M.18l.17x.18l.17z M.185.18k.189.18l M.181.183.18o.18k M.189.18k.18q.18n",
  "M.18o.183.18k.18l M.185.18k.18p",
  "M.185.18k.18p.w.17r.18k.18k.18n.w.189.18k.18q.18n.w.18o.183.18k.18l",
  "M.17w.18k.w.17w.18k.17r.18k.18n M.181.1cc.17r.18k V3 Ig S.-1e5g S.-14pc X S2.-1e55 S.-1e5w",
  "S.-1e53 S2.-14ox X7 Vg X S.-17vh S.-17vj S.-1e50 S.-1e51 S2.-1e6l S.-1e4c S.-1e4b S2.-14px",
  "S2.-14q3 S2.-14qb S2.-14qf S4.-14qd V2 S.-1e5o S.-1e5n M4.w.lh S.-1e5q S.-1e5r S.-1e5s S.-1e78",
  "S.-14r4 X2 S.-1e6x S.-1e6z S.-1e6v S.-1e7q S.-17wk S2.-1e7l S.-1e5c S.-1e5b S2.-14qx S.-1e7w",
  "S.-1e7u S2.-1e7r S.-1e7q S.-1e7c S.-1e7b S.-1e7d X S.-1e6k S2.-1e85 S.-1e7f X4 M.w.18r",
  "M.18g.18r M.w.18s V M.w.18t X M.w.18u M.18g.18u M.w.18v M.18g.18v M.w.18w M.18g.18w M.w.18x",
  "M.18g.18x M.w.18y M.18g.18y S2.-1d27 S2.-1d28 S2.-1d29 S2.-1d2a S2.-1d2b S.-1d2c S.-1d2d",
  "S2.-1d2e S2.-1d2f S.-1d2g S.-1d2h S2.-1d2i S2.-1d2j S.-1d2k S.-1d2l S2.-1d2m S.-1d2n S.-1d2o",
  "S2.-1d2p S.-1d2q S.-1d2r S2.-1d2s S.-1d2t S.-1d2u S2.-1d2v S.-1d2w S.-1d2x S2.-1d2y S2.-1d2z",
  "S2.-1d30 S2.-1d31 S2.-1d32 S.-1d33 S.-1d34 S2.-1d35 S.-1d36 S.-1d37 S2.-1d38 S.-1d39 S.-1d3a",
  "S2.-1d3b S.-1d3c S.-1d3d S2.-1d3e S.-1d3f S.-1d3g S2.-1d3h S.-1d3i S.-1d3j S2.-1d3k S.-1d3l",
  "S.-1d3m S2.-1d3n S.-1d3o S.-1d3p S.-1d3q S.-1d3k S.-1d3l S.-1d3m S2.-1d3n S.-1d3o S.-1d3p",
  "S2.-1d3q S.-1d3r S.-1d3s S2.-1d3t S.-1d3u S.-1d3v S2.-1d3w S.-1d3x S.-1d3y S2.-1d3z S.-1d40",
  "S.-1d41 S2.-1d42 S.-1d43 S.-1d44 S2.-1d45 S2.-1d46 S2.-1d47 S.-1d48 S.-1d49 S.-1d4a M2.18k.17m",
  "M2.18k.17n M2.18k.17p M2.18k.17r X2 I X Sw.-1ecg Sq.-1ebk S10.-1ecg S2.-168q S.-1eer S2.-14ye",
  "S.-14yr S.-14ru S.-14s4 S.-14ue S.-14ud S.-14uc S.-14ub S.-14ua S.-14sp S.-14so S.-14sn",
  "S.-14to S.-14s4 S.-14un S.-14um S.-14ul S.-14uk S2.-14uj S.-14ui S.-14uh S.-14ug S.-14uf",
  "S.-14ue S.-14ud S.-14uc S.-14ub S.-14ua S.-14u9 S.-14u8 S.-14u6 S.-14u5 S.-14u4 S6.-14u3",
  "S.-14u1 S.-14tz S.-14tx S.-14tv S5.-14tt S.-14ts S.-14tr S6.-14tq S.-14tp S.-14tm S2.-14w5 I",
  "S2.-1b4x S.-1b09 S.-1b4y S2.-1b09 S3.-1b50 S6.-1b0a S.-1b4m S3.-1b57 S.-1b4j Sa.-1b58 X3",
  "S6.-1b35 X2 S6.-1b37 X2 S6.-1b39 X2 S3.-1b3b X3 S2.-1ef2 S.-1eeu M.w.lg S.-1ef2 S.-1ef4",
  "S.-183h X S.-178m S4.-17x5 S.-174d S.-1737 Xh Vc X Vq X Vj X V2 X Vf X2 Ve Xy V3f X5 V3 X4 V19",
  "X3 V2g X Vd X3 V X1b V1a X3m Vt X3 V1d Xf Vs X4 V10 X9 Vu X5 V17 X5 Vu X V11 X4 Ve X16 S14.14",
  "V3a X2 Va X6 S10.14 X4 V10 X4 V14 X8 V1g Xb V Sb.13 X Sf.13 X S7.13 X S2.13 X Vb X Vf X V7 X",
  "V2 X3 V1g Xc V8n X9 Vm Xa V8 Xo V S2.-1fht S.-1fvh S.-1fjf S.-1fle X S.-1fj8 S.-i76 S.-1fj8",
  "S.-1fja S2.-1flh S.-1a7w S.-1fli S.-1fld S.-1fjb S.-1fl9 S.-1flc S.-1flf S.-1fjt S.-1fu6",
  "S.-1fju S.-1flc S.-1fkk S2.-1fjj S.-1flb S.16js S.-iz3 S.-1flc S.16jq S.-1fki S.16jp S.-1fvu",
  "S2.-1fl9 S.-1fzo S.-1fl8 S.16jl S2.-1fl7 S.-1fl6 S.-1fk3 S.-1fk6 S.-i86 S.-1fk7 S.-1fl3",
  "S.-17b3 X S.-1fkz S2.-1fki S.-1fkt S3.-1fqu S.16j5 S.16jo X1x V6 X2 V X V18 X V2 X3 V X2 Vn X",
  "V20 X8 V9 X1c Vj X V2 X5 Vx X3 Vr X5 Vr X12 V1k X4 Vk X2 V1e X V2 X5 V8 X V3 X Vt X2 V3 X4 Va",
  "X7 V9 X7 V1s Xw V13 X4 Vc X9 V1i X3 Vt X2 Vr X5 Vq X7 V4 Xc V7 X28 V21 X1j S1f.1s Xd V1f X7",
  "V1a X8 Va X6 Vg Sm.w X3 Vt X8 V2 X5s Vv X V16 X V3 X2 V2 Xg V6 X8 V9 Xx V1a X8 V16 Xm Vq X12",
  "Vs Xk Vn X9 V26 X4 V10 X9 V1q X V5 Xd Vp X7 Va X6 V1h X Vi X8 V13 X9 V2o X Vk Xb Vi X V1b X1q",
  "V7 X V X V4 X Vf X Vb X6 V1n X5 Va X6 V4 X V8 X2 V2 X2 Vm X V7 X V2 X V5 X Va X2 V2 X2 V3 X2 V",
  "X6 V X5 V7 X2 V7 X3 V5 Xb Va X V X2 V X V12 X Va X V X2 V X V4 X Va X V2 X8 V2 Xt V2k X V5 Xu",
  "V20 X8 Va X4m V1i X2 V12 Xy V1x Xb Va X6 Vd Xj V1m X6 Va X6 Vk Xs Vr X2 Vf X4 Vn X55 V1o X2s",
  "Sw.w V1f Xc V8 X2 V X2 V8 X V2 X Vu X V2 X2 Vc X9 Va X1y V8 X2 V1a X2 Vb Xr V20 X8 V2b Xd V21",
  "X7 Va X2e V8 X2g Vy Xe Va X6 V9 X V19 X Ve Xa Vt X3 Vw X2 Vm X Ve X21 V7 X V2 X V18 X3 V X V2",
  "X V9 X8 Va X6 V6 X V2 X V11 X V2 X V6 X7 Va X6 V18 X4 Va X6u Vp X7 Vh X V15 X3 Vt X2d V Xf V1e",
  "Xd Vpn X2u V33 X V5 Xb V5g X218 V2r Xd Vts Xg Vm Xa V32z X5 Vg7 X5a1 V1m X1c6 Vft X7 Vv X Va",
  "X4 V29 X Va X6 Vu X2 V6 Xa V1y Xa Va X V7 X Vl X5 Vj Xc0 V1m X5i Sw.w V1n X5 Sp.r X2 Vp X18",
  "V23 X4 V1l X7 Vh X1s V5 Xb V7 X9 V5p2 X15 Vw X2p V37 X6pp V4 X V7 X V2 X V83 Xf V Xt V3 X2 V",
  "Xe V4 X8 Vb0 X1s4 V2z X5 Vd X3 V9 X7 Va X2 V4 I4 X318 V5y Sq.-2iyd Sa.-2j0g V3 X3 Vc4 X6 Vn Xf",
  "Vh Xf V1a X2 Vn X9 V38 X1o V6u Xa V13 X2 V1h M.2jx3.2jxh M.2jx4.2jxh M.2jx4.2jxh.2jxq",
  "M.2jx4.2jxh.2jxr M.2jx4.2jxh.2jxs M.2jx4.2jxh.2jxt M.2jx4.2jxh.2jxu Ve I8 V1s M.2jzt.2jxh",
  "M.2jzu.2jxh M.2jzt.2jxh.2jxq M.2jzu.2jxh.2jxq M.2jzt.2jxh.2jxr M.2jzu.2jxh.2jxr V16 Xl V1y X3e",
  "Vk Xc Vk Xc V2f X9 Vp X3r Sq.-2kdb Sq.-2ke1 Sq.-2ker S7.-2kfh X Si.-2kfh Sq.-2kg7 Sq.-2kgx",
  "S.-2khn X S2.-2khn X2 S.-2khn X2 S2.-2khn X2 S4.-2khn X S8.-2khn S4.-2kid X S.-2kid X S7.-2kid",
  "X Sb.-2kid Sq.-2kj3 Sq.-2kjt S2.-2kkj X S4.-2kkj X2 S8.-2kkj X S7.-2kkj X Sq.-2kl9 S2.-2klz X",
  "S4.-2klz X S5.-2klz X S.-2klz X3 S7.-2klz X Sq.-2kmp Sq.-2knf Sq.-2ko5 Sq.-2kov Sq.-2kpl",
  "Sq.-2kqb Sq.-2kr1 Sq.-2krr Sq.-2ksh Sq.-2kt7 Sq.-2ktx Sq.-2kun Sq.-2kvd S.-2kqb S.-2kj2 X2",
  "Sh.-2k8n S.-2k8x S7.-2k8n S.-2e9m Sh.-2k9d S.-2k9c S7.-2k9d S.-2eah S.-2k9z S.-2k9x S.-2k9w",
  "S.-2k9l S.-2k9r S.-2k9t Sh.-2ka9 S.-2kaj S7.-2ka9 S.-2eb8 Sh.-2kaz S.-2kay S7.-2kaz S.-2ec3",
  "S.-2kbl S.-2kbj S.-2kbi S.-2kb7 S.-2kbd S.-2kbf Sh.-2kbv S.-2kc5 S7.-2kbv S.-2ecu Sh.-2kcl",
  "S.-2kck S7.-2kcl S.-2edp S.-2kd7 S.-2kd5 S.-2kd4 S.-2kct S.-2kcz S.-2kd1 Sh.-2kdh S.-2kdr",
  "S7.-2kdh S.-2eeg Sh.-2ke7 S.-2ke6 S7.-2ke7 S.-2efb S.-2ket S.-2ker S.-2keq S.-2kef S.-2kel",
  "S.-2ken Sh.-2kf3 S.-2kfd S7.-2kf3 S.-2eg2 Sh.-2kft S.-2kfs S7.-2kft S.-2egx S.-2kgf S.-2kgd",
  "S.-2kgc S.-2kg1 S.-2kg7 S.-2kg9 S.-2kfh S.-2kfi X2 Sa.-2l5q Sa.-2l60 Sa.-2l6a Sa.-2l6k",
  "Sa.-2l6u Vi4 Xf V5 X Vf Xuo Vv X6 V6 X5x V7 X Vh X2 V7 X V2 X V5 X5 S9.-2m0w S3.-2m0v Sb.-2m0u",
  "S.-2m0s S2.-2m0r S.-1pz5 S.-2lwy S.-2m0m S.-2m0l S.-2lwl S.-2ly8 S.-2lxd S9.-2m1t S2.-2m1s",
  "S2.-2m1q S.-2m1p S6.-2m1o S2.-2m1n S.-2lzq S.-2m1e S.-2m1g S.-2m17 S.-2lz4 S.-1q1n S.-2lz0 Xx",
  "V X34 V19 X3 Ve X2 Va X4 V2 X8w Vv Xh V1m X5 V Xcw V16 X5y V17 X4 V X5c Vv X Vm X8 V2 X68 V7 X",
  "V4 X V2 X Vf X V5h X2 Vg X15 Sy.y V16 X4 Va X4 V2 Xlt V1w X24 V1p X5e S2.-2od5 S.-2od2 S.-2od0",
  "X S.-2ocd S.-2od0 S.-2od6 S.-2ocx S.-2ocf S4.-2ocn S.-2od7 S.-2od2 S.-2ocv S.-2od8 S.-2ocw",
  "S.-2ode S.-2odc S2.-2odn S.-2odl S.-2odk S.-2odf S.-2ode S.-2odd S.-2oby S.-2o9v S.-2oal",
  "S.-2oc0 X S.-2oe1 S.-2ody X S.-2od9 X2 S.-2oe2 X S.-2odb S4.-2odj S.-2oe3 S.-2ody S.-2odr",
  "S.-2oe4 S.-2ods X S.-2oe8 S2.-2oej S.-2oeh X S.-2oeb X S.-2oe9 X6 S.-2oeu X4 S.-2oey X S.-2oe7",
  "X S.-2oef X S.-2oef S.-2oez S.-2oeu X S.-2of0 S.-2oeo X S.-2of4 X2 S.-2ofd X S.-2of7 X S.-2of5",
  "X S.-2obn X S.-2ods X S.-2oft S.-2ofq X S.-2of1 X2 S.-2ofu S.-2ofl S.-2of3 S.-2ofb X S2.-2ofb",
  "S.-2ofv S.-2ofq S.-2ofj S.-2ofw S.-2ofk X S.-2og0 S2.-2ogb S.-2og9 X S.-2og3 S.-2og2 S.-2og1",
  "S.-2oem X S.-2od9 X S2.-2ogp S.-2ogm S.-2ogk S2.-2ofx S.-2ogk S.-2ogq S.-2ogh S.-2ofz X",
  "S3.-2og7 S.-2ogr S.-2ogm S.-2ogf S.-2ogs S.-2ogg S.-2ogy S.-2ogw S2.-2oh7 S.-2oh5 S.-2oh4",
  "S.-2ogz S.-2ogy S.-2ogx X5 S.-2ohl S.-2ohi S.-2ohg X S.-2ogt S.-2ohg S.-2ohm S.-2ohd S.-2ogv X",
  "S3.-2oh3 S.-2ohn S.-2ohi S.-2ohb S.-2oho S.-2ohc S.-2ohu S.-2ohs S2.-2oi3 S.-2oi1 S.-2oi0",
  "S.-2ohv S.-2ohu S.-2oht X1g V2 X7i V18 X4 V2s Xc Vf X2 Vf X Vf X V11 Xb M.1c.18 M.1d.18",
  "M.1e.18 M.1f.18 M.1g.18 M.1h.18 M.1i.18 M.1j.18 M.1k.18 M.1l.18 V5 M.14.2p.15 M.14.2q.15",
  "M.14.2r.15 M.14.2s.15 M.14.2t.15 M.14.2u.15 M.14.2v.15 M.14.2w.15 M.14.2x.15 M.14.2y.15",
  "M.14.2z.15 M.14.30.15 M.14.31.15 M.14.32.15 M.14.33.15 M.14.34.15 M.14.35.15 M.14.36.15",
  "M.14.37.15 M.14.38.15 M.14.39.15 M.14.3a.15 M.14.3b.15 M.14.3c.15 M.14.3d.15 M.14.3e.15",
  "M.9hw.37.9hx S.-2q4o S.-2q4a M.2r.2s M.3b.3e V Sq.-2q4v M.2w.3a M.31.3a M.37.2s M.37.37",
  "M.34.34.3a M.3b.2r Vq M.31.2r M.31.2s M.31.36 Vz M.2s.2y Vt X1k Vq M.9kr.9jf M.9mb.9mb S.-2gr1",
  "Xd S.-26yt S.-28ca S.-29ty S.-2gr0 S.-2avc S.-28sb S.-1z5f S.-28ry S.-2aus S.-267t S.-241l",
  "S.-26bm S.-2a4v S.-27ip S.-2aa9 S.-26b3 S.-2a6b S.-21nj S.-239f S.-1ym2 S.-28tw S.-29rg",
  "S.-24gi S.-26xe S.-26s3 S.-2azt S.-2azl S.-1xwh S.-27uu S.-2ayo S.-29tn S.-26ug S.-1ygw",
  "S.-26zi S.-22ep S.-227t S.-29t8 S.-24l1 S.-2625 S.-2627 S.-239h S.-2a4n S.-29hg S.-1xpq X4",
  "M.9hw.kdo.9hx M.9hw.fex.9hx M.9hw.fik.9hx M.9hw.i2x.9hx M.9hw.m9l.9hx M.9hw.jf7.9hx",
  "M.9hw.nh3.9hx M.9hw.gd9.9hx M.9hw.k0n.9hx X7 S.-27jt S.-29uq Xe V6 X4a Vrd X3 Vh X3 Vd X3 V62",
  "X6 Vc X4 V Xf Vc X4 V1k X8 Va X6 V14 X8 Vu X2 Vc X4 V2 Xe V9 X13 V9k X8 Ve X2 Vd X3 Vb X3 V1l",
  "X V X4 Vg X2 Vc X4 Va X7 V43 X V2k Sa.-2sao V Xsl Vwyo Xw V3dq X2 V4ge X2 V5rl Xf Vha X1wi",
  "S.-3qo3 S.-3qo9 S.-3qo1 S.-1crl S.-3qg4 S.-3qdz S.-3qdn S.-3qbp S.-3q8e S.-3q7k S.-3q5f",
  "S.-3q64 S.-3vqm S.-1brn S.-3q2p S.-3q2j S.-3q24 S.-3q1m S.-1bzq S.-3vq2 S.-3q25 S.-3q14",
  "S.-1byj S.-3q0w S.-3q0k S.-3qkt S.-3q0e S.-3q06 S.-k71 S.-3pyg S.-3py3 S.-3vpc S.-3pwl S.-3pwb",
  "S.-3pv4 S.-3pv0 S.-3vnz S.-3psu S.-3pst S.-3ps3 S.-3pri S2.-3pr8 S.-3pqs S.-3ppf S.-3pp8",
  "S.-3pp0 S.-3poc S.-3po3 S.-3po2 S.-3po3 S.-3po4 S.-1b0o S.-3jyd S.-3pm4 S.-3plk S.-1as5",
  "S.-3pla S.-3pl5 S.-3pkl S.-3pge S.-3pj9 S.-3piu S.-3phz S.-3pge S.-3pe3 S.-3pde S.-3pbk",
  "S.-3pb5 S.-3pa9 S.-3paa S.-3p9q S.-3p99 S.-3p92 S.-3p8o S.-3oz9 S.-3p6u S.-3oza S.-3p4t",
  "S.-3p3v S.-3pzd S.-3omb S.-3ouc S.-3otb S.-3osn S.-3owa S.-3oro S.-3orq S.-3ooc S.-18xh",
  "S.-3omg S.-3omc S.-3oly S.-3olf S.-3ol8 S.-3ojh S.-18l4 S.-18jb S.-3ofq S.-3oeg S.-3oe5",
  "S.-3ogd S.-3ocg S.-3vcp S.-3vcc S.-3o81 S.-3o6k S.-3o6l S.-17z8 S.-3o2y S.-3o2e S.-3o20",
  "S.-3o1p S.-17q1 S.-3o1f S.-3o19 S.-3ndt S.-3o0j S.-3v91 S.-3nyv S.-3nyi S.-3nw9 S.-3nxp",
  "S.-176f S.-3nsp S.-176f S.-3nrk S.-3nro S.-3nr8 S2.-3nog S.-3v4k S.-3nnr S.-3nml S.-3nm1",
  "S.-3nku S.-3v3a S.-16h2 S.-3v2m S.-3niz S.-3nix S.-3niv S.-3nic S.-gsd S.-3ngy S.-165c S.-165d",
  "S.-3gk2 S.-3ng2 S.-3ng3 S.-3v0v S.-1333 S.-try S.-3nef S.-3ne7 S.-3v08 S.-3ncy S.-3nbk S.-3nbb",
  "S.-3nae S.-3n6n S.-3uxz S.-3uyu S.-3n67 S.-15g0 S.-3n4u S.-3n1a S.-3n17 S.-3n16 S.-3n19",
  "S.-3n00 S.-3mzh S.-3myi S.-3myx S.-3myn S.-3mxd S.-3mwu S.-3mwr S.-3mw2 S.-3mvs S.-3mtz",
  "S.-3mro S.-3mqq S.-3mnb S.-14mk S.-3mnw S.-3mpq S.-3mmr S.-3mm1 S.-3mjd S.-14gd S.-3mhp",
  "S.-3mkb S.-3ml4 S.-3us4 S.-3mfu S.-3mfa S.-3meg S.-3mfj S.-3uqj S.-3m9l S.-3m8t S.-13nk",
  "S.-3m5k S.-3lxw S.-3m2s S.-3ulx S.-3m0u S.-3umg S.-3unh S.-3q68 S.-3q66 S.-3lxw S.-3m0p",
  "S.-3gvd S.-3svy S.-3lxd S.-3lxa S.-3lx5 S.-3lvh S.-3lvt S.-12xm S.-3ul1 S.-3lr9 S.-3luj",
  "S.-3lov S.-3lnh S.-12t2 S.-3lna S.-3lqe S.-3ljm S.-3uiy S.-3lie S.-3lfq S.-3lds S.-3l8j",
  "S.-12dl S.-3l76 S.-3ufq S.-3l5a S.-11zd S.-3l3x S.-3uec S.-3l35 S.-3l1x S2.-3l17 S.-11m2",
  "S.-17fx S.-11j3 S.-3kx8 S.-116n S.-3ku5 S.-3kts S.-3kwn S.-3krt S.-3kqq S.-3kp6 S.-3kqp",
  "S.-3kpm S.-3kp8 S.-3kow S.-1148 S.-3kr7 S.-3kk9 S.-3kij S.-3u8n S.-3kg0 S.-3kg5 S.-10sc",
  "S.-3klx S.-3kbl S.-10oi S.-10n7 S.-3k98 S.-3k62 S.-3k6u S.-3k6y S.-3u68 S.-3k5p S.-3k4b",
  "S.-3k4i S.-3k31 S.-1c6u S.-3jyv S.-103e S.-3jwi S.-zuc S.-3jso S.-3jsc S.-3jrm S.-zdn S.-3jqc",
  "S.-3jps S.-z5d S.-yz7 S.-3jji S.-3jj2 S.-3tz2 S.-3jie S.-3tys S.-3tyt S.-3jdz S.-3jdf S.-3jcv",
  "S.-3jcc S.-3jag S.-3tw8 S.-3j80 S.-y67 S.-3j7c S.-y3p S.-3j60 S.-16l6 S.-3j1m S.-xi2 S.-xhg",
  "S.-xdl S.-3tqa S.-3tpz S.-3ivg S.-x8u S.-x8w S.-x7u S.-x75 S2.-3iuf S.-3iug S.-3ita S.-3tow",
  "S.-3irj S.-3tol S.-3tme S.-wmo S.-3im8 S.-3ikj S.-3iis S.-3tke S.-w8c S.-3if1 S.-w56 S.-w40",
  "S.-3idj S.-3ib0 S.-3tih S.-3i8p S.-3i8g S.-3i8c S.-vkw S.-vcm S.-vcn S.-3i41 S.-3tcu S.-v5i",
  "S.-3hy4 S.-3hy2 S.-3tbx S.-uzp S.-3hqs S.-3t8n S.-3hq8 S.-3hqe S.-3hpm S.-ued S.-3hmx S.-3t64",
  "S.-3hk7 S.-3hil S.-3hgr S.-3t4t S.-tvu S.-tv0 S.-3t3v S.-tr0 S.-3h8c S.-to9 S.-3h7n S.-3h4v",
  "S.-3h4l S.-tcx S.-tax S.-3h25 S.-t7a S.-3h1r S.-134x S.-3t0s S.-3h00 S.-3gxs S.-3szd S.-3gw7",
  "S.-3oi9 S.-stc S.-ssz S.-133q S.-133i S.-3gqy S.-3gqw S.-3e27 S.-3swz S.-3gn2 S.-3gn9 S.-3gms",
  "S.-3q3j S.-3gma S.-3gm9 S.-3gm0 S.-3gkw S.-s4b S.-3gkz S.-3gjg S.-3ghj S.-3gfi S.-3gjd S.-3gf4",
  "S.-3gdz S.-3gaw S.-3gi5 S.-3gev S.-3geu S.-3gef S.-rxq S.-rp6 S.-rtd S.-3ssc S.-3g6v S.-3g6u",
  "S.-3g5w S.-qg1 S.-3g3s S.-rcx S.-3sr5 S.-3sr2 S.-r9b S.-r1b S.-3sqv S.-3fxf S.-3fx4 S.-3fwu",
  "S.-3fwt S.-3fv2 S.-3fw0 S.-3fsb S.-3ftk S.-3fpe S.-3fro S.-3fpu S.-3fp4 S.-3so8 S.-3fmn",
  "S.-3fls S.-3snd S.-3fj7 S.-3fj5 S.-py6 S.-3ffz S.-3fft S.-3slv S.-3ff3 S.-3w27 S.-pi5 S.-pd2",
  "S.-3si7 S.-3shz S.-3f3j S.-3f1f S.-3ex3 S.-3erh S.-oq3 S.-3ep5 S.-3eok S.-3em3 S.-3ejk S.-o89",
  "S.-1brp S.-3ehb S.-3ehr S.-3egc S.-1blr S.-3ea2 S.-3e7b S.-mxa S.-mwk S.-3dxq S.-3dv6 S.-3dub",
  "S.-mnr S.-3du3 S.-3dm7 S2.-3dht S.-3dke S.-3d9u S.-3d93 S.-lpv S.-3cyr S.-3ryy S.-3cxl S.-lfe",
  "S.-3rws S.-3cq8 S.-3o02 S.-3cnm S.-koh S.-kil S.-3rt6 S.-3rsz S.-3cii S.-k4x S.-3rre S.-k13",
  "S.-3chf S.-3chg S.-3cgn S.-jt7 S.-3cbk S.-3ro0 S.-3c9n S.-3c66 S.-3c5g S.-3c3t S.-3rju S.-iqh",
  "S.-3bw8 S.-3bnv S.-3bin S.-3rcv S.-3rc1 S.-3bfs S.-hmq S.-3rbt S.-hl9 S.-hdx S.-hab S.-3b6i",
  "S.-3r9c S.-3b4u S.-3b4q S.-3b4k S.-3b4b S.-3b45 S.-3b35 S.-gm5 X15u V3t7 X5 V6ju Xf62u I6o",
  "X47bk"]

/-- The folded form of a character, unless it has no place in domain names. -/
def fold? (c : Char) : Option (List Char) :=
  let run := foldingRuns.find c
  if run.kind = 'V' then some [c]
  else if run.kind = 'I' then some []
  else if run.kind = 'S' then
    some (run.numbers.map fun distance => Char.ofNat ((c.toNat : Int) + distance).toNat)
  else if run.kind = 'A' then
    some [if (c.toNat - run.start) % 2 = 0 then Char.ofNat (c.toNat + 1) else c]
  else if run.kind = 'M' then some (run.numbers.map fun n => Char.ofNat n.toNat)
  else none

/-- Whether a character is its own folded form. -/
def isFolded (c : Char) : Bool := fold? c = some [c]

end BrokerAdmin.Unicode

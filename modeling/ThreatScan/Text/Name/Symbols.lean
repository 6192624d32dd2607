/-!
Names of punctuation and of technical, musical, mathematical and pictographic symbols, and second names.

Second names are those of the control characters, which have no other, abbreviations, and names in place of misspelt ones.
-/
namespace ThreatScan.Text

/-- The names from U+2000 to U+2FFF and from U+1D000 on, then the second names. A character can have several of these. -/
def symbolNames : String :=
  "R134-u>w'8>8H@>Yc7/)h1<fa*eD0+a&[3iPXXIl;HA.rI)^eKo%N&p%v<d<o1I=#u6]Q#;B`./g=Y<r2GvY5(qu/85E&P`DC*kfa8)2ne_0>veb5S]mB
 Gl1hj8rx@qT5O^>UE]a8=;UVB=x0^fLAwnF)iR.oWFZ1R1_rV=foUHPWh*8?K&e-T(LPY<=[N@Ck0L7xYUDdpKB*UHb0<W`KK3NDmITdJF1A*okQHk.le
 x6BoO*ih8=f6:U,=8MuU(SgdTNW4A1%A5u]6h*S#DZ`J$#&Ge,CMt)w#uRSSqH2]ax#[U-p=&6/I0Rr-q%`f/sh[M%Y5Yrb>ou$xv%6<5PPEra<7V%D8r
 gR11R8bnR1h%jO6C1l^sd=t(TN*Q>URDO#=PPJEl1'>`*0)G(8o7tJq*?]>&n4Qin;6TjIrD-L;h-6YZ)hH`q8/CuQdY`A@vm5vjZKwI*Q%?t9qdK71Wv
 j3q7IU_f$qa1bR`fS'AQI]$o:`.12(H(&.ob56;7<L+YxH6>qY[s)1>u%W6hp@WWgFl`A4BU/topu[-Evr#pg&X%?YB*KLlCO%.l]g=KbMc`k.'PLdTRk
 lx)NoZ9'4PqmFue;`@%NahH:DgjB2Md=(F&)7T-WT?Y4?(8GEJ1ds<m1urjkAcN>VO,oc5fNK$-:)Yl3+J:auLRk<J,ps-HcPLT*2jVEIc'?ahc'NK>4q
 :J<PP3wC7QidsY3t&ji._*m';lw+j8GLiM:3cmKNGRs$n.O3NPAhs>AqlbP/q-NkU4Y0e5n190=3;=3nDDsj0b[/BhH/RnGVvf-r]l6+7`q.:@L4L*7a#
 ie%/rR6xpTg95N+E0ZcJ0;O''X6TmdLm85No$'=[meJFZ.0S^8UZ^5V'&g=8:(u6va@'C&KLrQWIPhV-mh@/hts*i?u@uZRJg5rM8oF2-@.VRL5G%28x^
 9lUWiDONJZ+NR3K5TU/QDv/hjM3K:$Dxb3i^;Gg%%#s^rlfTn3xr4P3Wv7k)&3+RsR7/(1`P'oU:5UWIdroQbl,@%l/x#xokw2,XL-V7i=Fsli?3UQV<^
 'ncN(2+7r,0g+UQc_2p+Zx:Mnm5<+0K*9bjUA`+nL?49Fp`;=#QgH<#f?HX%QVlujo:2:1@elGN)__X>?jH=5%RTO<&?Cfi7^(ZRdg#GM76gjcNM'+xuM
 7h;XmceL+,SvT>PSBix?7r5X(s*l'B#Lwt7-2KumWNXCBhT2_oCp'i7`8`]xCAjKp+wnad7OCK-@w(t73Ai(d?Kt;Gu@6^d^K=>4Hl6`o;dqDY`'?eB'j
 FnO7;@)FoXrCxlq_UK'K%4$kLq]=>*1?`NlsmY&;+&u(@kRSjYDea#>)NXBCE>2J#3`vj@n4n-f_)<thov#Lp%W<pEimH3D=3'H2^Q2l=bM93hr$N+9T_
 ?1`'ath`&8w_-bd94p)xT.L?k6PJ-#Lp:vX8BPK>_[,B6@kB/Dn_'Qis^dZRZPTR$p]1*8(IDE5'Q0Q`^NZIK-mG)Ts#Sq/D[N]P_fx5KOL_%&5psFWgW
 S=x**#=v%<3tT%?<<eF2aDS-&+Nv&O@pVoJp112TDiFC%vd).lo,^EfwLXH*sX6R_Ec*i,pv%wLF*bF&7r,6P3x+@=k39xXlBT3/7n7q=PTL;c`=GCj4t
 8$ptOFCEUWbREa3,U>uY;d,;vKK'k^=&noN(E0iUg%c(1##O,GYn&gMQlnm<%tDK/n?BTi$brK^5ib=ZpG$_9eK&D*:JVRZh@%gMdFBSGCg_hffQ5[Ntv
 ow=NmpbF@skaXqGdr$/AV.%+]KYR19E[ULe_5B)ne%'Q%;l[oFqO)q*WIBHMVaPJ*XSHBFN^9w&Lw'D9%p1N1:)2*r/*Yw^q^oB0I3k/KlR:i%Ar#f>X7
 0_PHc9Q]gh:(YDB4ndXr4^oJIMCoQ[EFvu1a-[NB0&X?BX,L`5K>4$Uj^U218KKea6rS98IP74DQvrIme'Ag#w?l[:DK:[pw>86:L6B6v83V0u3uT11jW
 wjD(]'BZ<lcg47<8[*gk71s$7Kbv7>l7]jJIVe7,kNd0*;PXZ_Y</m.LtRLLf<CtFgsI9<GWW$+VJ`'hangcqE?hCF[XBea#acPS@Efi2(v$jhA:Tko(-
 v>:rXWn?G%pO:-:6&Y-?=W?W*]nHZH1tFja8;]X8s&$xLC2vTF9v8pg(PcW@vmo+<4G3.*O]Ab%N2oaY4Yo2g<YOf6S,;q5FbaHQ_5K=9-LVd`tfGfQIH
 (YA7r;`LE,1NDD6<$CHG5]'Wakcrfm=W`)lZ/`mhX*8I*bwIJ7o0ZD2bh(03<?SUIJbkSaCQS9o+/kR1X@h1fS1TY:m]p=:O='Xp1ok([QAe5T+j+Nx5i
 M4M7.WkU_b3GJ?4$3Iqr7HV']0JB5j)Vjh_uk-`/]]wv6;ROOATJ*^=tHPWV`2ftN:J<^/B>KRW(%GVIlEeql6[gE6t&fZ#]x)^K<hp4eANdEam>V](m[
 /uHrT(?wcDh3sH'T#4D5=fvU]r=3p*Rr<`LP[)B/t?8F.n]G,Pf1oMIsow>Bq1=TaSjs8k;Nd>?d-V7'B^``(_BNc3Qx:`e:]TNKiav0&6%W]-?NX,L<&
 90T8XLEH&=?$:*/a8H90S@J7'Kh:2knEGMOhI6hUi>/eB,0smYK7K9@Xn;;15mauDrC/9&%Jrfq1ZUmZK_9-S#h3w[xgB8XvF[oLu<qx@lv1dk6>rs)t7
 $4Lb0r>1Z-$#Db>#D;Ct@>>Ht,=_7$PpG_t;'CA6DTOM6?[eT1xZ><^9Kru;>/s5$=6Xn:k_u4Q,HxAMjE=M''o5=#154n0d]$?g$EU2X/3(i6tJUw]/2
 UXc?@.7>R/wsq%]u2Flx?R)VJ5QuhJ<h5l_D9(3K[mf-(VW2nLx4ZS#fD`@*(,i<NgZrMK*7K'$dKi]6:kKnR;1DEoE/AK'cwg`[7p$E<N$3Y=:-(N&DY
 *cdd<KNkb/PX)BB=<<&%6Mt?ao)4k&l_=%e7d6a7LHvF:Gj)2N,hW;D53+c>sg[(&(rL)?(sm;j81@3pQe`j#_tS^qk]K/C_X:S5<T3md<#F;Q6n>G&dk
 lBcO[L+57%JZ@'*oq[^TSx%R<r3.;-=/:cpk)4hr6<E/Xc8L2aTsq]2onFM7Au039f?<njT2rgPq$=KOCmA:R]OolT15%JI4aN=#4rd^'-`5]7A.xLuW<
 %:FQvimG9j'S?VOiaQbV1g-PS)Dx1)Kl:HrdtDx,U^pfn26`rC[;s.PbSTP7V3l7u@dn$dpT';Ee9NnDlfq5Y+l82ZKd74tG:DL7voo,]j4V2Nck)e%=q
 6<KA]k$1Y-.cE_NDlk/23C;rbE9Q^5v;YAp;nj3uXgNL6K]Q;Ts&9JiNrniC:ZLcG&5Pd=euuN&e^,es(]T@g80[AHf?=*/YZD-=%:c9F2_rZ.=/=1s:-
 I2C4>gq8:+36cA7jhC738t3W70B31B&2Y-ho<Wc8'm>k.BF&@N=Y'iQZQne2&xBpRW3kxL8J`#=rvtHCw6i-2SNpU)D_9l?_a8i-e$?@du[#7;LH/;->_
 8ohtXt0HoT)*n(S65i:ms25eiKAZSu>.H]PV6uwoD^<L9&IO<mS53ejMj6H^*k1mxX-#)nc/Zd<#h8@Z$7gdN'Hmaa-&I[1,1D]/fCYSvP<91e8awN1'@
 Z*7R7/FF_S&XjQ13vY7j8+LIGFYwe3hUkHH'5?PAHHm=MaNi0H5L<F7#.K0:<Vb<NseOVcTp0D(]Od+,QSb'3(.%fZniu.<2nIY+EtO=;.)I]mMK>,skh
 wM=BkNu->^v3VP^n0F0C(Zh3gK=MPaTqo<t$BYtiwP-rqr_Hoet-=]EdKGSCPMJ7hq$GZdVTpWk$nXKvcT_Rbmp5-f)f]FKvGil:[Eea7GQxfq`+QKoA$
 K'=@Uv/30FS@K(]td1<<mfq(b9rCU4(d/&.7X^D^_=(i9e,Sl+LEfMUq1/,E-LC.EfMt9akFwiTWP=xcjuY+%67`%.H@,1#pw2La=-DDHuB+SWc>n]MX7
 AYs^EoZ<*7kb:Fa9r5Z$`ZOoejl?>>l#3j&e?D)[13PAx321N^<a0)3_GGfKuvgL=r*<A)ZV(XZlHiiY/2-T%MOOckPpch.g]iH1,)%*u#2hB7keoN1w:
 pnamjCE+s]^a@GAsUF41g(LsnV)N$xckX/r]$*D8.dq2bPVqQ@jqvkFc]sgHp]0H%])n3I4jpwd@U`LJ6MjCb_nvx)YMr:9HN-6Z]K+*ABs%KcDPmZFXv
 uJnk8U-B3eQ_'<;&t]Ao1S,gtoDvm2Mr&-mJ^&JG/D3rD,4w.iG7=1j[jK:aUQ1,l'n0//`rTpFKm_(O4$.k<Qe.E-E,mSfWj7^#K@<#58#b$4K#UN>Y7
 g)E)XdTGt65'KHg@O0-Y7,(67`SR-N#MExPodSxeDYC1=-.$KG$&_T0rC.hnbYXrT+b0S;[2QEr#o(Z3$QO$Vm;xP'U_>e[pZSWlDH0BDVE[2i;j#:Eo2
 X.*_CDtK67wtNsD^tDI;x9%2rPfH3]$#n-eYNNW[lQfYhuFCM%TMfKAm.akjC,13Bd]DYNQ2jBTWp(Tt`1i4[QxumrG23]lHrlfF4lT#@j]KtB$wvHH8I
 rB1h]c#FTV25=f$&fTBf`hj1?`pmMv>Sq#:IS/1jpaF0%AFcK[1`DHw-L_*PjEZKhE_$2ArlcM;jI?abwjqWfP1$A-NO`-[CbpqDm/%Pf9m8.LCFnjT@j
 RO/rBC+@^gU'AF@osB:'jbv4Eb<F2=PkcLlX`utr`ZM>XCG84gS2qU.h9-IcF=P=D>v-WU_@7][riolh[@DuWfZbk%6xX*#qe`fEWcW(Zh-DgMt%b:(DT
 g&6GhG18kk>9Zd8q;uOGgZdfaS2:ESZ;XT3[jsd:UI3,(fdiNb[XY3bvU;N,ZfcB.c=fbA`Cl8*lrCb9@uaG]NwZKDH8;HXH%p#QW/C1Tpw4Q%cJ8[6wB
 xA-m^]od1BsjwTSS?AjZ*,5&>'.So:Rn>^]?PM`t.m`_c&$Z5[od;A1Oev@@cR/^bK**8A<-W^N`FY0?o%RJn>04n[Umg&GlJ+kTVC+TCn0jOQDI1j+>h
 YPdb?3,4_g(Te*07G'-gE$;_G2gmZ_=GWXJd60Y@,sIRG:]0-rWWZ.&FNluU52Xb)_4ACWfNfd[E2Fp5Iq'/GT<0@]?^#CVurf.7/fTPpnBrKV0Bej6D[
 twoq$<0a:^:BG+k>%#F$NNSNo<J.=rVY,.W?lQ@?RIjqi=Dk6BGwia34q+^._&+(.0h`/4pSjk9i?488Q0=3Ux)('ic=Nw^.43,EYTXh%<u+72h]%oFM3
 +w_lkcu6mgDiQV73T1-ClBcO'F6p;HcD=<<c_rV;(KxUx.0W0W3.uE0),C)G]NmS)m4e=%dST3kATJCV0/]^+JpYheFvC1KmukXGf6_dX]gJ88g]/21ip
 SCdAeklK`2$n)lc5eJRv**Fk2/M,OIWGLAc*,9gO9SiCY+C_.gf1G_P=,.&U;sQPLZKwMn&@:2a3m`(]rfL`'<K3Z7?:?#.VxCIX4v,fN,L+fkOIk3:*w
 NEH?<*0$v2/J9,^b:,V/f?l(XQiRh3uPx<w@&q&*d]4WA5nhIK'rER;3WVI/E[)9D@XB>XqA0'k2_?,;H<7/Na3KTjp@CG:p'8OoOq^Y:Og1]Ai3:B]AT
 8oG[1P$CoKB5.vl8T;`H<uW?(vSa))Zpa9c#O6^$SrHAoW>b%[^RY60?^>M'P0O8u.BETmwi7oJ8_f8bJvCXU1GF=TUj;*&=n1_<jX/3dohW^9r%HG&&5
 pD?`uu?b2*@s&8b(RMdT/Rc:Jojo+;*^f+s47Tbgfi*iHcr^BL$P]/d+V(ti=Cr_lnqkaTi#:B#%%&@x4,VmvPfVowv/4$U420Ea#5Rlt.j.MFE90bBxY
 D?r#h&WVg5mm9mj.JxU5,o,6H-%eX2@T80?*w(JH<Z+F&S'5R9C@UU(f(S+1d8*PQ,G#o*'>tKCLG([rL>&)ucsm3Q6R(oJXcHC'0=TXmRO0t:-o,YsQ-
 D*VgWr4*(tsB63lYFU%o?@PgQ^#BG*D>iqxOS(]WqJ6ttQKZow@mr9M(QS1T$i$1c[AT$>fj%C7.':MoE>Jj&IS.B8gZ1/[Qov5depXstK#.VBCGZM&<9
 5g],#1/^g6_)*lb*(QG?K/'fwUuP#h$'wliWqkjgcQmoG[_r0QZjD3Vs@gcn5ibi8D=]x96HP>GO'2C?cb]j4@m<rL*m-1(3*.QPN&djK&u_l69Vox.]S
 FPm8Tk5I(hgY^7QaZ1Ic[kvc8bR9Ruqp.#,QM(J%DS^/2R?f28eEYBYB*W__vg_/)Dau^pCRQ>SHK9Sd=wF*<O-hC+oE.xWPuZ@/NR9_(&0>*/?FC>KKQ
 m(sK-w>MFsC2uZOnMp_Gq`5k)+D;%=DR%pSYJbcGU$AbRk$o(oSD'&3b3q>i%suZA-UkV6WGUr^cTaGredkb*7$'GgtDmkiXjTTXL*jD>M(2w%*A.-v3h
 ^iVwt9I6.-&t<+b-V.sx6P^8g9L(23`i5G,?T':^XQP%5<+IG<cYegpYN;%N5567lo)UQ@lMh[bS,1rp>l5;roXZZcU#Do/>i=$,m5(#M0w:?FC))+fDT
 VLM`q>8vss93>g<NX#`O`2MVkFo/,6bAv]mT-Z6SDSvUUv^d]we;HEB.c`M35_NelHHMsrHl/*+%gk=Rjx=^n5@w)pW6anfFm8<>C1GDu9Vd/-A+;h`M5
 Dr)dj)hA;Sk]_el6hK8PhtmiO#M#4fsHKD&bWY=cQohX8X4(ii>k-kmok3)>=@/J$B.Dck*cqeV.<Lj+c+47+re8+LP'#2*&j(*kT?4q]P/3Y@-C[Pu&G
 Xbvwmr&>5)S+`A+T$gvTxb9-qei+NCDE?/8UaUDQQ_2*k3#*djmXag:@fjKi>7[99Tc?=XBs[Ui=X8GuRQWauHI&cr`D<xh+;j8hg9l?<<Ki1093fO$xU
 naMk*>hJOZjFqSsdMGNU>,b+>@#2sW0.GXO@rO58s>mC[SOZ6(9-cArG3lbcV<[x&qW8S7sm<(N''`k$P(8T+IaaX6SY631@5%I1Y[#Gf%,$dBPfHrH7i
 m9Mdmj5,>1l@LkntAc[(d6MtjB$7WC&;9/ijlI>ZKOe78U?g]LscEA.Q<)/(.&._,S+.5#-f&7,MLQbT6B#lm+*M50dJn#hc1%N>dm4t.g@:Ht]DhaDb&
 9-^_BO3o5R_;O-tu#7RuVaN];4u9,^4=b+(+8P5_%+'.=lLF[[xiN@-^J^ZcW6*?rpldCd$f&Zs4'Vqq7T_bjW%=Wfcf:b^^?ffB0PG_hVo@U?BF_;iau
 T0Yma6eHh_AZWYg.)nkLNiYpXb)PwpStadhW;E^l#.8=`l)=<a;5)>Pdnsti+OK*F-6V7GNX]F`Mf$8wO?/kij[MJs*(Kb`d(on6<*s%wl.UAs9is&))4
 L(ZHOtSLb3bUETrnEjq>($U5oIkD9<XOrF1%7DAKu1U7K.fOSDRk8eA3Z.nXtK.It58WahkXkma/XSw;Ea,J+Y,%J%_#iDrINgV@$tX)]tl+v%LgUP-B:
 [^SI7#[PeRG*]U%w&l$s(>'jw`:9$Mn`9E&OR1wIFVffNHQ5iQo5htGG`kDt7Qb-I5>Y#m%xUuG716[moB6O]PPD(0cCU>d9;.No9bC#mg7rt,5@A>Om=
 ESh+V]C8#8e*e1`p*D+]m5b'>G9Zf?#0Dw@_SxeLqBQBvjj(@A_v=KxZ;dKM=FXL,GkSR1BeK1U]QgMplcHo+1^I[G:v8RKf.6p`c'oQj,t)fQK:/$^/T
 ])h+srI1$u4K`l-.YZjB0D2>[aWncYJYkk/j%cWISmI6](c#`v58NHSE.rjmWvvPpNmkdJI,r*3NPl+i'esJ_'d)hh.I7'[d.W?h5^Y;htGAm87mx3,GE
 q#>iY+=-;jXPJ[DJj$$$b-04SfhrNHLecW>*?VOk6Wi]^9j]B^dJaEj?7Ki1LW80p2Y9%wmIdAgXAp7i_QgxYr`e<1b,<Yd1M>j0':1uiLURTYvn+lo&=
 9OH/dIrriPFQP4)]?i.HjRJNt1U$6&g%wf&]uT*GS4dQU3Q3<;HS:NJ>Y[>`o%=2o_*QGlgEO;+*0m&n,`PJ6:AVv_3VlJauP-*3YA(W@e(+]cq;C%Z5<
 0`J90IS&UpDkFT^-Q]PH,k>UUbt?P%,S_5`?UeZ6CjGkES)Sk/Ss^<DB_mU-S&6A:UssWP:nb.otKhRRv:4%K75`Z]VFU9.L#Q]U+c33A46$]oLngUnl?
 ^mG8>Yt'fqh+8-D+`1$`iZpCVO;6=J9gG1$GK$9f%9+LOUL^sV&:$-<9a>]eJ2KGRsU:dk`-bjgf1Bh9H7KQMm25x3?(>c*[<KT57+XZng0E569:RK<Bn
 n+DXH*ZQ(b#[YMK'Gm4&oacnLc.nNvA7tEjn8(HJtxO6gC:>qf9NJq.e/.#t@f)kL]1d$PE[mIa3Z?(&)->UbrM>sT7C%35sqSg):oFIL8%1[)?C1@l;7
 PXpBO$eVhur*(ACpo$sEMs]](]_-i0Gnv.*=JN5unJrdc]aOIT':*BG(lABf#`?@qx_.xM_I^f1QLsa)/Y)JhL>6#?n9G^g@Mmf;UtwVRsc4_P2*,?eb)
 UYW,bH1[Af@$[9d4(Xdu$j?>Bf6G^cWY-&ZAkHP]TaFXRavcaOg'aLMD)/EsLl+hEpFjXIXB1]([;@XfG_Uf86i7nDTPa);3#f6U[h^s:+DU5@WaLM;9+
 J8NHd,kGg4KcK*c>u6'KJCJ9btvFi'-CEnW=^tAp(0Q;RpB`(Q$-Q@FUwEehC5hXk`L9mO@,8/`'2S35%K$.7A7?<2gs)PR(q<lg1ksDX.I)'k9]OmG34
 :N$XcR$px.kNWGNG#T^ZIqZWUA.604%^a^pM)X-.[U-$3e2S`X)#Gk&V-H`l;J^+$Q14%'sij7L`.LQ_L<p2pXZbiIgEQsmI8$^;Pswv,r,N)lBQ+ccF9
 q#'/Ou9^5.E*Zsx*LJ*^63>k]t%+v*M@,T':si@R#xfMG^eMnAEt6UX-hf7j]GDGx+XTuKV]e/T:;v&F+=S%ZhVtc0328p6)?v2bT.1'(Xvvt+G8YVIAf
 l&g1+XG3MswT[/ZL(e;CChZ$EH^8Wm?+0(`K%r[?U+wPHdP*$ns(4tQkd3kK:Ns2OZC=_(bl1cL4,RvbSs;12_*/`7_T_5CCAw@4.4_ISLR<m(cQ-B^`%
 wXW')ELqqZP5P+%+1YR*S['),6&B'&3j^:Y*n4kGA5K)Yc1Wb=7VQgs-h_G_Gj3(7_fDumVUUSDEWXfWf3tVW'EhxteFcA'A#M*F<(MESlh6xqIGRbkDu
 @7=&X`<75ef<iJuk%/p9X)i/XJF6tn33mVf]<Q(v=S-?P?Q;Mms$<f6EcZ6)Vb9=_+(62I3uHgEK_g0X8pDTwq-Z>/7T,C&cJtI>Kg(`gEQ@BYnd;&g/2
 Xd04oFNlTPLSf4PnSC(u(Y?G']L=Q[$=B=Ihf@P62.):WV$(*vo<N1+C&4@8A#A3S;r(N*=3f,R8bfCB=N]Pu<E3[JJfjJ7kmopt5NAxP%uwkIlRpOW+8
 kG,D.tNthGccG+%6lT+auY;/uFm.]'8ZM2-ru<6L?e8NYWx_a-c$rs%#:/)a(M3ra_cZ0HWpLT[W.L:Xi`26kQQe5U[Iqct)'aVW.3sk`Hdi@;wwJZqg-
 uM]ioas`D(8flO&T'qkB<2TVc2A0^is7m2G/$d]$'-KXDPjm(FXn8cmT%kT#K/f]IvV_,H6P=G_Rqup;1RTRNeDK)SnY48x<+*S;pmRs&U8cqFt,+8ZG^
 0m)j5UMf3bm`hl08d:CYe6V5fcrFJe+UDCft/m(]-5D3uH=nbf39kfEP6S:>vw<9WQ>+p.qaikpJc^941r.'9eY^[:'T*V*d;wP3n2h:CxC+7-3.NSdVi
 bO1qXK7LB%%KanRWk#c,@0SU:8%k7af7,p$C<h2f^_eKKk,YO&0H,beQbfBQaRpHYsllGiA+U?9bXbakWXP581B?cR8a;9?3TeC5uXO(#w(KBT1;Y;:>;
 H9h>LBECN]1gX_pRfiW+l]e$L91uLb%jV`Nbe5=05>)gTguO^i2UuF=D3@)ZlF^E:EY;SYmIM%+W<g%V;@p1j7/QW'<T;mReAnvYQ@%?RYkXmIMtOW25'
 p@;ivVr4pN'hOe)W]vdcS-ua&M`fiP4LX3-&35G.B&2u,8m*NY>P:)usRl5;L+#Dcs4t2'`i^Om-%hP1:mtokcMYO$:lBTrX4]9HiP;t,krXCc&V:CFr:
 EJ*emm%AoMg--Umb_%^HBKhq/vlgo4DS:xu*t)s##:CHKX&4?&HmXvlT/l&>,RT9?fL#?l%:@$xiubR#>MbanTq(`pOLdb0gWHJ71Dxm]=)0=Rw],<9no
 -ja^+pf(,qN3G@MA#ZReYGlc)iU>GFHG*4pQ.iv=>RVK>c1BglDD$O'6C48#@T`5PZMvi+UKqI6R*Y5R4bsil'*h8_VJT(:)w/co+d<@C[e9(,^&vV'F5
 RILTO#v'a8;QX&IJ^L'XqY/5VQm`aDuP`7sceV@Q[VD[7@[)awrN]*^iIY%V0*``0YE:,@w5HV'Tw(w`7n%*Zdta&sTGKv$PqX9E++C9xvi&1S2D+>#`.
 V]/d<sDs[><nI;b.J7_]eg6oWMQ'f`_H`^<KuT)'n5.-N4>5&JC>LWhNE(>1'NFV9.7]K?'0E[CDJ(t/ISjXZsp9i&VC8+OjHicIYsxB/L-lG#57d-:Q5
 q5L*gjO`*<@4Di2>Nf'$H2L@#L:7S#R[MW23A*]A26,2TW)2,OI>lnnFx7&*OeG3mg.v7#ZeK4-#D41n$18)w&4m??o>9@vKmArMwlbh#K]^s%JOBe]-b
 aEc9e3HHK3Z2UiNbKGrXACdaZ7$.Y=-JX<Tl5<UhRJ1c`f'pqKM0vs(eb+vjpm8-$V6%9k8rvCOV.G@iV4GFV483]#H<5w*1/cVcC^=rmCf72GXVFc(tm
 go3Ji9e%j_XelVr+4$+==K54)N=h:hPO=LD+N8Itk,S.gYBn8$ImPhUeN_,>$[5k`bWiHic.p*]^OgDporWjDiT_lnF]&Qpx.g&s(FQpusDKNNff$Bd5l
 '0V>x=:L_*I%u;Owqa8E;8`T4D:ug>(nuFq6w]f9)iUT`$Mp009TQ^Hd>>fE9Rb4PRb?baN&/F]O?kH:/DUoO=B/xc]<NFH)XX&Z-HmR.iOVi$+ocJ#[v
 #Sc.WkfA$8UoO>o/xc]<NFH)XX&Z-HmR.iOVi$+ocJ#[v#Sc.WkfA$8=HO*5.9/vWP&W%XDlN28MXi9R0]vpuYB4+VZvu[d,wPa#fTT7_)MBk/8`5Pi=O
 >RaGf(q9<q#QtBb#?LLG3.iFo]N-YAT,WQeDR=9O=$=^(S[.bIa_fRw=$w>2V'<>ww?C`:-+%E0R(ImE)M*QeDSjZZ`L;2W2G3X.DT#>B(')h_v^V*A-a
 v%;vQN`lqF`h[S1As:tTxYb@=oZ.=730c<.q'vtA_g#@uI@u0Y:?k1<ai7GWx'U7A^s3:aWMTEUk&wd%c<=^`>FYsnKs)b&PY^oGtb_IONorpNv)OGGo)
 QUQH=F'uDqB-Ed-T#IRoBxEmh_S$dlae:4E+-E(J#`v),$$Q<.8GVrQNmkbh#1fw7mkB-LuRaMn:m;Jg9pW1G_jv7gbb[QrdfRJ$sEtS7F)mDo,%x:e&`
 I0BTw^*f%UajZTS[)^sbpt1#J.=bOjq_B`14(9[%)FGl4RDBGR830GC>7BYfev&BPX;'Y5tw9DIeIq4.h$=mmJX0()FVWuawa_nLbB^H8?iSDOsQM>h#Z
 4p)ZDV+M7V8Ep`++4aNoGNmj)pqhfxlfl)ZrEQ?a@8vwWo@i^'F3wKiBo?[Wr6OIG]_WNOZeQs&)<VgZ,ecM=+I2aIg/W5G&.jm@e'-@)ao;3(142TV+C
 #.4qB^C7Den,k+J5EW]`T+j#;p*</WoaPlueXw<k(X0L7$_q?w&5f`^$0:QP-+sovR3`S5@XlQWn2h(SG>h=3DaDDes1x4uqA&'4?f03^.;L1evi/[&q;
 Sbx)`/)*-;T++@[,ieh:rKrKn5$F16[?f=:-C]tk<DBbrrf+k-?AZIo-Fk<YQIl9oV0p-uLW-W$b*QKvIMU^451s-:.BX7U=OIGL>(tkg;Yqj`YadD394
 5oZX)I$=:W3WW,5u9p?FowM`Qm3Kv(P:T8T`H'59QoB@*AIQmX+0wKKbO+Eb+0Ospx&Ynd&hko]=t>Ud<06.A9m-(2p'UR0c.C;2Up'-QPLI1UlZ7f7$:
 _0DOhEvZ9M-XVw'M_uwjb'+1[46='QolFsQ&XIgc<ST=r5Pm^GlKJp4lWK*E8Of9Gl,?P'kIW/A$h/Z,CR-V<rnGc2gMsBY-/51b@oUu$Ux7-Y?6$7x1'
 n$-.<Caoe92cTp*-OW.csm%7a:ZPQr,GR[feRcj.QrK(TRA(D'lt-F(`HT4@SLEDVDUes/V`u4O7]S/c$2l,V8#Jw91)Yr']%1vuV:Z4HO=Aa-B)(duH2
 ;;2ngY::lbtcUgsO<OObXH,F:xJ`Q`s[n7WFNgg/RRB$O]'Z[4(0dTw.0@(>9MM(uG17i.BvBtK/b1iq3/@,XNr%sw'%hPVTpuT33UihSV#_n_I*cS1^L
 xoY59TB6;Ca%Fa/SL49-+XCf`cuY1U?:hq#PZ4StX'V?rN3f/Jf(K6/s,O#j#k%9T#QY/sHl.YD)&P3rmTI+]7:*7a]$)BgA[;8jnudjjTI.O)];`)V7a
 /W'&+4poC#a]a(]e/`ZTMf;T><IKqmNYf<p[?c@U$.XANx<XFAC=3L/dWMJ1lIviI2lH5AjEG_FnP$*H[k=Is[e5nCO30dpPY/T@O,Q:&mY9_]=D`U-f#
 @51)<,(o-*:#W9sgEJ6,a&VT-['0NfS>gpZjBubiZ@qs?VtD)?FN%qW0II)*`d&7]rq-^sM^9k3euc2/q6BQ-RZQ/UQ&pF>%@AVY9^Ri:P-g&,bwK3-bo
 f)tA]N3(uGKHoZEg$f;E`SEkZ:f@xGG^#M-)4x@U*e8gvtd?/oq+^83KuDJ#b:qSfU?G&MhO.)>W(]t+o[aa)r2g5cpD0Y?5FG7?@34rpm:?4'7gfx0LX
 9S*KiFV9r@$]:>*QsAmdq#&GZ[T-[f83k$U/t_l%q2^cmfwM^gZwudVlCv$6;E=2v9iCl%*t8/lu(WN5L-]Z/?'hr.$OdFq.ONXQVQpCPwJWlx9w-6bs2
 3:TW@QmZnf;&M&b=N)V6lIgV?3+i(hbi&tS*TY2i*v.ZJ+W=3-r&AACKZrI8MEQPx;`A[e$qpqrm$%w^'58h9O,GIgveQ438Uqgvd(V]0GH^663`-]eMD
 -DUsSLEVXf$/FGMoP*;(6`sJ(g#>Qa'k-ZT,J_+i4l4mcA0Fq]'n&-D0i*0Wm-?mV5+/5b%^H=s8nQd/$gx.9ioJKIP:wFku5._an9kPmMXpbKx%DhHn/
 (&>k.LAfO0vlQ3%,euA;0.WDrpnq67AI4M/mpge??R#X3`0.MGiGmm=/H,wRO6iNHbl2^3mPTs2C^9r9W[>:+TL4?XI5$>`]W@*76#@X;#RB<><eOg?CQ
 OIYRXWerI_WQ#br0QRJ:S;%J$nxBJOW993v-L_oG3iTCFM7'fHEZT)1L>1'<5rKBPhxVK2j0q_d2%m^,$M>Eh^I--o%i5NJT/l<kCU57`Axl>[ks8v=_W
 >Kni3`F.9hesv)LoXw#/>NO,[t^fs+;b#'Ii*&9j)3+jtL%qh)?fwYKGOCLf?'_,a*8T=>P>9'VXB%h@Xcta+iAHfgnk90rEDg14k(eN2YYf=7Nc:*`:k
 :C;fjl'^]mGDRGG:KB@:CuuA>6Ewh1UWKxt.Rfp:(/K4bO^r6f@#IWj-aUsDvB.=(G>oI_xXm>t<6jogf/sB7sqC)3XlH&2-6xU-F1Nq;]07qk?[^oQx`
 &8Mxk6+I93'982it``mUp[K7G1`Z%NH>0aAnGfS3b2%;-0[Y@ot)`GK<+Ao8IA$21-27U+*/f;*>+65<rh<X:vt/pe5CPf93,cl?kKig,MAeL/U'sZI2g
 Z2kZI<J*W0tEDsbLNI2xO@d$=FW-`CWs6%rA9.&UVMb*]0%gr,%xGL:-9@Ue:#2)KFGc%6,8iV4G5JYw[2&LEZSGBi59,7?W9noa@vc'pu,$uxndca%d'
 YwbF-)nQS%`0YfT(P6,23Ft*/3W5AV-R@PHC-Oo?HM,PD/br/>Kp1>>dbDjJo%D_e$WoT'F0MAn.s?/6o8QY]eU*/xqIj_'%f+PJdw_]+5(A:_Nn:pjS:
 -xbWtf.ffS1KIWPppl6h54^^BSDBFaxhi'N#>%)taBV>D.]F63KCDQg&?+r%4*Uk,8L[)p]krrkm$MnSGFlf>?/U/kWv$-omP+c1/IXK&/^GmoMjY#FRI
 &5O&/G&.YqO,78NV'8bAw7nG[_4-HW&,maPT3O)u:#;'a(loi$5H_/u'_E'9#=E&l'>7%,g)+BQqHxd>Sh[ef_G>=895,xhP%KN(TI54n>Vd.H/n=a3>*
 l4^5<B+`;H+,QQef+eQ=O0$OZ(a;-eQpx6U*mXoiASB%%8sB7mML5nG>uE3(iQaIHijhkR3<g@8mtVL]WPd4qHVfWn9_q0TRW5#CB>0gDd+6u46LlO:Nt
 7+IFJ3]eub%]oXmn*-:TR:to,0IrZ_BMO6;w5OZ^Iqhg6JIbN-,vQGPV5V<vK>*7H_^s;/JuH4<w:O*=-gm+An91,nw)PshPwpLMa+.?v?^EfTowLL>oc
 Vt`QO_c7JNE;)MWZ=0O.A8+'Uj@Zq>+L<Oa,kS3M`[%h/FldrZ)6Cj0^oSL)G7gsGU(H;)E_].a?[xFAW?;s4$TPJR./s6UP<4HN<=6IvEMFu78p8x-fY
 rZ8rOQ>@VdQ8'=n4Tp3krLv.5,)(=FpLUUJ(m$.IXQIW.gn#uu#H?t$'@JtW,g1LU,ZGO1W2qhHx4gS_t3_e]tOthtE%F5:Ck<G_P(mg^*Z8`K`X2H6s)
 *M3gexAcx/#9h=I.5:UUKu3+rYQC:GpDa1(NE@QUW5(aa`%Vjjgkc^Rjfb-w:)J8l%ta3W*Yjs,.feOQ_&kdK+Z5#*`iV)^FuY@U,'8MPBC`+SeGHc.([
 oY8I^2?v`0Yw`ZRmf%(_4a[>9<Hmt[/o[lEVZIfWJ^FVWoq.2r%gh+le@]/#Dc/Db5XiB+?r[AE*9ms5T:f'_l0S`4<PR%5YL,Ad^)nskf<qsM)LFfC;v
 @EEW.1W2t[e8GWP4qj8'j7+djd/+2PXWJY$9B2r?/bS02*fF/h[n^=6N=2oA-4SQG_+]0^3nLDtM0[]TuYKXnsrZTfQTrJ&'Wf1tZ:E&v]>:G*Z3XlaAu
 W&?^O4n;8#(K19?dZ0Td?81d<*-W?-=K[v_$><3ACrMMfIU67[dB>5Nd*KED=#-^&'gF4DuhA[_a1<#8%W:KP]*a#X;/(IvjqSfISe?9sEv)3JPCbiDr-
 5PMt&=q)M1#Ul:[l,%WhtoPY'bo1PM..-nK3-Q&+:>De=W?(bFqsFordoQ94>V&-`K_rf^'@ai^5:^^^'MFuP36QmxfKXO#?C#<PL<V^OS#]=%2VImkq,
 Hr/WeTe[vD%i&94gaAsg%8FmR/4Z[C`V@w><mch#22_doHjPJVo;Vbs([cwR40)UW6td:R+.X@S^JW''`mNxY90>OXt<FZT-R?9Dq+WO($LR4q]0>5TB9
 ?20GpNI0Es'l^<C3AT-JV<@`FnMYj-6B)dPx6+mHdAZa.ML-#Ld4-#;J.Co*@5pW)h^Ib4YDSbHP+MBu3WkeS`1@[v*ikUi:E)K/oDri,WAIH-wOD/-Yi
 )w)g/(irs*uu&=N5FXtR.nUe)/>Qd3<>le7`EtfX_'j9iA5pa*QG/E0vfa5M0T&Zw6cu5:Ym&X^;$2$@ZPX6X*V4THCanrb=j5?DdoCSI:](vduD]lwBb
 BdA;s8Q+QDJcj]<A<=&f`EcY4T+fet5hh1%LG?mIPKaYQB-.,?.mbt%SPIG)GA.IpJ[;btQ>%ZjR&3(?-hiKio]6`R'Ps9<]xK<U_w(D-@m'tM7+_;3ir
 Z'X9mAEl?6OkeO(i)%A(TLJ:KrhK_v6mJ`W%E%H8L1sB*e_%@'eQeek<vs6@d)$/)ju)p:JWoqvFlrUTCH92d/]EMv4PF.@JYVd;sd?#J]F^L(0TN4xjR
 Bkp09mA1-D778vAir:g,QT<YWIU,Uj`*2ljsbcpNx;1Q,vWAoZ_ej-RMLbhNWuF.%Vmcn6XaeuR%LTP/9Kr'uS;(&6?r(%ZSs[OVo<s$&H@M._&ttb-sn
 1t',?]aEJN;f8Yo4RD72o-MouMIv>hC<Ksi57?Dn;SAu1I]J%io]f5R@fl>XcCZK4/?;OGWO'gnMC_G0>.jn73fKS'FKq4'7r;s>Qnxb@=Z`/LeDEhHFb
 aGFP5l.EoRiR/['#;hUPA^s/LMYX/E=dj<*pR^mm<mZ+]]l`3m9;[AOAX2t(XFr)$suVc:o^EVF(_84+,;*)Mxta-[oaT.@FHrZkk^2w1:Fgu3ru.B(`@
 .nvqQUmcQ,:C/'4g]c+9MPnPB5b'u(q9Ra/p6ZA$',&Q1&X7#@/igs+6AeYiuQ+Ot*NIxePDBX6<*i6<_1#88Ac)GRWPwf?b<_AYJ_#6#ISi7YT_2$b1Y
 e-lDJ%TtnLj(1*uw*Ym7Cx5E:xk7eWnoPI-XtsilP':f>JjO^LBGq.H6CMUN*R#_5`@RHD_kbjEv%lhhC65d:[dogq]t/t*blx*iSfhT;reNB1g9bNVcq
 6-+1XomWQ<[6-^8K4,+FCUU%7pP_Td=Dl-ZB$],YL.vdY7HEY#682$,bB6GR@8qCZ^(;M3:&#Pm&#&lfq'>Xhr`#$Rp8wLtq3h`6p(O]_<Go`8L-0oD)$
 &`Xa(F9;1Ta-pEpY]a3&p7D(5Xg6N>%kNY'v2E:Mi`iVP''Z<Hu7GB:fm]V5fVKaMk?0^e(M38ALK4E8Th)p?__3v%LZ.hkl#q<XAGWTY#SP4S)J0WM1A
 2h>E$C>?H<p:Bc3O2Ih:IlUf/c7V6@7n.pmr*mWY]i]*V049Px><=aeQ9k49BkH:k;#huD1p&X@w^l0OHn7RR)/).3-;;,02bl6IM`r=^*OL+<oKLXKL1
 ;9euZG4ONc_(c,xEQ4</#CoxMLg>V4I#^p`$?RQKY?0,M>`Z&ZX&'ioUQ*BdDh-NkhdD0]%wTL[v7/8*7p3^;0h:]<shbCB7Wcr5`XIap)NKVb(/d3e[<
 2Mbc?UdHR*=<&GB/BA<8fGUJI9&^025um(@D82,s`4Ke#;+68q#Ug6Ylj]Ras'HNi$3U'rsn@mYJ---u#<Dr)x=bLe4s_u:QSU-o'b-9*GO)_J'T2Jj-#
 *caTJ+id7gl@br;Z-@fVGfXD/C(WwY`u:D?nuSG7JeDa6v_>/ID%B<,Oj%[x0i-swXOlZnEIHRH%5JZK=aA>Z;uclogeu5A7Y`+@dT0I8Q:8KTA;BmmZl
 IXsD_v(K3@N+#^0EL=6c^a5s]ImbIkmXI9tc*jf<x>cWAw)[,I3/Eam.O8+U7r:HYn.,6nDaeAT59YVQ`95LA4%C*kh&qc%:TZIS0pUuYqmiH%u,ZpLJ/
 jG=)ASD20VHPQMD^l6Q=W:rAU_;gOtBkF7+lsP6W'#mZ0E1-2+;wpnOplObq(qR.g9tX)_Bu%Km1`),gdqKT,rd54U:*Ci&3S#:WspI`U9m76xYjTmD:D
 c59rRP:x0>dFpiP)srs7cv:@7SfK/^jv,;R=ZnjujeBhKjRh=NXr0=3g_Y8<ZF@<Rn2D<Id6%5sK6nhhK:$ZmK-*RL2Is$l:c)0$3rnRhIQ4:<Z^,mHI#
 ?/SNdkY27^2SiEf.OT.FpLhO@J7kkjBCZ_iqR0kGY_IfRS#)u>ACli&nleuTJPjsZ>=jj'=px=1QdiCVk&5)>Mg?4QG1WM3^4lTo1+1Y';jI^R#2^4PDG
 EhW>W?uMdwi[;,,F[9&RC%*rZof1;'Q4P=JKhPZ>c6e&9q'K@s#4t]uFI.g8WdXq+Rf-O4vgKp_U](E>,4;V*N=VB@_Sndw%Lw&Adiwl:waG_1O%&FXP`
 XfY0:RGb:lIds'lrY80W*5Kmk;DfH1e9v^K.u_m(UeWaMscx=L=`iLF&O<6`X+5/s'_)X2R],LWPa@NKx%/$_a'*lo.+>Amc?u'V+Z^fV(EdTEQafJAqv
 tHQ_AEv3t@C4:T8OeLWX<aZoT/.GuAGI=isx;0J9n]Y`R.ks/(ZTFZL0vp[iKwWB/3ZWsI@q9oSV%SE(gGEYa);IdU]%1_Z%@_71*4DhLE-uM*W`$8BSN
 ?R4<E?l-4Znr'_+D83M<f@Y$qBI+hU>iX5Dc*;#a1<V%J4QADwgu6BAmSgcw].]J@JE&wuJ6'$SL6pg97>^'NOC<v)gA6B+:QM>X1Yoe6YNZC9Sa87-0c
 :+D*xc:WS8vjD,jG,Y6jplmR^`BWXWEpV8pD?rnbC7FG)?30BGk5$:xH:.Fq_QU_)0PcZeR.#;RtRaKL7Ed;UF(GVpHfO/=Gr@M'e8)5HeK]sK,iZQ,MB
 GM_CEoN.v*=Ua/-5sI,IsePQF**:fr6.[sOQX.*O@B0`-<TtSw$nC6vCpEk<f-=OcxNWR4bH+bgWp[WMqFqlw-ro3%[TRrp@dIP+Fp].Nlf][SnoiKg8u
 tQpt,9O*BL_<#qQ#=oO`rw.:SnfNaM0ZQ5Xt)700M&_DUaBSE+xXMtF4]P-tNUc`88b='U#k15/(j8wORALwb<N5Em=cYn)^t<h:.5MsDTm6^(=;e;,mP
 E7j@;_w@c$W@'N>L?SSTS=L:mZnqt==A'YbIW?A56a87^`R'YCHO:fkcs)/)_ao$$u#`Tw^2-x&k'UgCrHFBZ4lF/<<v/BJVBAG9N3%ics_F9A2T#UoP>
 8kk=)&VkLSj,t&`38re3Mog]`.+.8%DY/Y_$h(Oms.3AML59%c)hBN9,x(ra33>ITP7N@f1;K8DH=A*)#A'*cKMv=Ja6@:32c4*28)wjv(wl1JP;RG78A
 =AX7c^NEVJ[CF2mkZPBI&#o'Z;M]Mrkwj@e[o':q6U:ESfisihsRhIL(drV/h4q;@I*u:/G,Y/=6`Hb`FCeT7((>a$L2:<3Jis=9Pgx@?*Br*Ht:8#Zp7
 )LjfO%2fvi?an-=Ei%'T]:HJ`;l1#dA+W/m6axf?(;ORa/>ieSDM%8QH@B'`rca44<$a4LJFn(G-.$L20n#d#>gGZNiqY<F^@>VA+#kOd19*1q9WLAG&#
 @P7M3Ti5Ko(&oZ<-?*)iFx1Lq6wCXD2-2%Ck.AY#NZEc-i]q)$@_o>rfY,HD3qv]GIl_J3N>8/8w1/F+D7?ka#Jtli/eYM+i+&hgcf@X;,khV;hrPiG.F
 1S3fAfe'nXj8%E'D,#D5FPMhUk^2]8#b%K?V$&xkNm`LO7Rh'&W@&`ZZ$4Q=b;jnhDq&G5$60rq2]pMfo<o26Ii1:t2JFkeu8Zw/FCDEP1;k1S.Y<u&67
 >E6x>+Jn$(qXS+iKI]*6661725*@APK2Jfu`p>8f8s);8*q[c`kV=_HCod.e^cLOwv%vgfficBGV;k5N@Yf]?sA@93?[[he.%/(=D;p0Hqfiu^;YqtN&d
 L-6M/.lkC;RFu-.S56/rl:-_rY;4OiAOP5PGh5eP38:k*6T)DfeGr.>)#dFb%h)V>StGHLt4WcNDpT03@:WMY;t6+MeNnGo8.HSdWmUnnL_gNZJuA'1rn
 AhD7>*>^U7AHRCUDicwd#2ocwob)uJTSoQlgOM>@]Q`axr=8?1mP*twCDE>gP:30j*]E%_au]rf2DatjTClhWDk*rIASqdhNuAA$_Bu9pNf)1aRn,aAhj
 Y%*kUlW<C_b(*%/*2I$.t-k^3h-T*tiS<`&B3;@-X2r_M>[a?'vLZgJ1<`<D(P3'E.g188D(C,(v`%qj1w_H^O20Ug%AD157`8/4]=3=C^F+>AGq;V?gi
 ungA<HL0a8L*9n;C:O+R-Y['4uw=$ThBQIxcK`v_xt/)oeK*Mb_SoMbR?I/9vL=F%.S,%^g7ngkqH*%pu=r&sttjHc&J8^26d]0AdOl&mRm[k)^ed`jT1
 ELECO':bqMJ2[B*MI]ZOEJJ.j*EE`iH25ZW#`w_V2W[3iuK^bZZ-%jA(V?g$dSRu88fg[W3*)1KtG(*?<Lv5tgaDBec>Kr%FYMK,2O@CDZG_7bJZ,P-;r
 ]OuE2;7x&Bw1Yj^R*tmd-'I5T.*,^Z@>J9uvI$Hp5/^_7$fR(od/3'F^CaO%OQ`'W:%721El]e'@r@Y/lB?N6JW&F`ildQ%lbaM3rCBcQRQmV;Z'1dui7
 R@w<kmifAYXD;PNOgi]+;ZE]Nme7VQf[,O)I='mE*]t]3[@5KWr;:cd]7Cf[4dchRb?,a)eGlm1He[,Si1@_a6aE##iW6lvuuls6kI6^wh:H]pE]EqE@#
 ,E]xKwn?BR#]mHnow7j2T<U`(Z]r^4L&U#l3F.&s1(Bvje-rGg`N9Nj>vv8apo.OTmdW563pL``67TAr]lJ$RB/)^T5r6$([unt'HRp;fMHR/gtdqh3AV
 /D;.QuSiPR_i_@5Wf/Id4q_GlM+,sVf=S80s)pME6-L4O-kEC?<Ar;[3kagGvvn5m.vm:;MrEJC:,2dL:Bl/CCJ#V'O;>f=*,Zf902)=OI>-vMlvgSXIf
 pgUT$i1Q`;hJ9hKhi<6pF]<?#8eCf5I;WZTDRJRiVc4=5j#Mg1t4]r*uTpqO0DP2U5S'*JYV*HKnFquEYT_<q3?8CPE>+kZDA(`CUAA^0MX)dCokd64:X
 <u2N?tGG5%gE8DB#')K9bX7F1H,+T]7sqcvwc'E;%Ejnp*o#j8uNEn;:D$Hav+Pp-h-KGR6Z9[5lFqDdTJ6,_be6mEpO6H7G<+#pEkN$CP4Qn%k,Fod*B
 t5Jp,(US'fG3H,#7cRg$ms%]M.iT$9Ns#S#MKD2-mRToO08lIMDEP>o)lcA-[a5f9R_;l`VBld14S/rx%VtjGc9f'2i1u?OOF[(;X@^@A_SW0d'`;SuV.
 eZU@*8jdN$9M.6,Z`/>g&lQEhnt/l(k5_#E_eCi4Usp.Sa*fN?W.CXVrE`J3uFd?(*Xu^sMq'0obbd&hMU4&aJ-So@'$X$YFuUNRkv/u<QLK-$O]D'X#X
 C$'.oYd'??T#PE@K(cXquD:F__;-:6tg<`D?^Xp@#GJhFx8<>Tj:Rh8=T7JC)bUa)5aAi:KPIhVK#^tQJ[Zc(sGUmu]h(Wn-b:0fUX6$jbXle$OQjqUq$
 ?+oC8(<o)QhV>eA-&5L%EDBuJh4pKe'h:0YmBouA+^HUd1vIFji,e3R8:Wsej]8:^Pv?8/(SNeR.$ewBk<Jb[3?tnRgcbCoFp'jFI6i,Aa_j</3:BWR)x
 NGo7[&,al+CMEO]RxU?:Npfs+<7pd]abor@aCD.l%mY<OXmfhw;9d/jCfMN8dd_KQWH%/6D]6B58RkWG2vBid1RcQf<Led_R;p3oe3/s4k+TdAaq)B&@T
 aZf&H4c-GGUkcV75*C1)[R;F[DV#_0nRA/MnA%CUmik341.^Lh'#6hAYXu](C/LcFX?[=Oj7E]haJhT:Y>Kk`ao<4NHHeKte^MEE5?xnc`Sl<?:lM7o$)
 8Wh/U*t<J;1i%%qK,*>/xLNR5Q,pG]w7nrbg-O.FC<C.:?GP(^6lf)L<#Sjk1ZN/MDkXK$ff3mXT$gBQtW_o?Q[LN%8vih#1#)pET[<[%=exCRldjOqRE
 t.+1*C:oQt4KQ1]qpo^M@O7O28Ht@51EerppuI:_(cMK@oX=FSOV5Rb1%[/7vTgh'IcU0b=S5P[IEFb/oVCR)hBoG$X:.'h-ln#n@I_JR`_P;Y#>EpjYZ
 9=D0od+K:iPs2;h_SQPYPM^7oNO[w%8UK@%jk/MoAL''5Dt4UGMlHuhL()$`W9RX$L#@+Ni-wWZT@@*2&jKJ'%ZC+B[JB;konpdire%6sh&`hjZnbRD<1
 awPd&8miPZ^4]^L7X+/vqtjm>x`m_aH5(nSHq;m8WDCpnGS[Dp<w-5vXo-.dNR?K&Uvb)_^];]x*Ewo_v5ATFg(VPa2iTF%Bx_sa;'?&4?qS8<p:3.,&'
 &+Bv//@t`:AdN8q(iB2&Bq/Gtf+COY$;*A0.f?GHxn(X.Lt/,Q;s^h$<5F]c--*EW6kq8(d^A(eirA89im:A>rKn@K5KLlj=]H2`dSHfvEa+7]+su=/@I
 o;6*Y<R&025;)`;)sW)`0P9NQ*b$KXclhbK8[Z-j_a'.p#*/mjo4f3ajcOvq;k%N3Z94d_)lCG$kdow>$@rS90,I3qil9)^N8&aMivBo>2TuqMrfYSrru
 @W6E3@l@Oep<L_nM**Q%P`Dqq/UWjLT+UUag5[K'LhPsW@g`(_JCe*>B?1MoAJ?Lbf.Jp='@/Ib05N@icxVgF6;K<GU+dP:=x`Nd(q1RBgcfJ(hD0Rc&e
 eBb1,Fm1l9sT%5dZ-VJLRbg]:)bHOO%=l=ld@FVjaCW&BF#[QHt^4L'RTHJ-(4LV--Iq4]&U<gpNQ_U_2/]63p)n,DI30GVDl<:@MbPKuOeVDn^Fa1U;x
 7qZW%`t;,l%%WRf.m/B/Q[S>bNo`9n%wrRYmPgAV,g`)n%I/L:qf-D8_(HQA$ox=C:#1T3b4LSvAAsOJA4Z):Bil.(0XR)E>CiOVO;?N'6=<0x`sR6O^1
 Q3&e)o=g$2&GnIavJT8ldOO3WHEc#%7G]mXU4((5AHmFXVTx'OOVD(+/F50Bd:ddU<.TIGBbB#Ig0TogLoZla)Jh--r3kikLSD?Pkh0RU62@O%ERiw4a&
 Me+-ObsDh-E)7-t0>Xu.Z$ojoR_8977M)dWkIv_$EwRNQO0:@`&`UB;=$(fbZic*S*dp=raqk6$>>rb`2gP@XFw5%mnR;4)odi/W33Yj>wRKAT;1B?isR
 swnq-;U2*95ikrsk3,x>/m8Ujwl;2O'NaRX?[X^3WaK$LJf(e[NJs(-F8E`/j:F'Ki]VE^)rugF-MVmN3Za4_`)aAOFVFLCsMpY%/#)S>K;Xpo;tY=i$B
 V)`Eo+&W5,hsR8+2AT8^5ORdE^-wHv;0hES?Ag[@^E]i1(AHM&sx_vJKE;K9h(0Y*Ygc#wSj7[d7-cexKMl>dRbGA)aI%6gS4.*h0S?SY*p3YR6-JKo8[
 V2*e8WBX60nSTeq`p.S?h:WSMLII:UQO4$'>-puuO`l9w;J8I'Sdm6Q'RQn-CwTb3w,T%do:b<gc:eBKlQTR`#g'Oef3Ut4l8nda-8w(`m#SOYwuV^0(s
 0(w1<Y(8NOY>[9VP^2IP67SE__?`cl,gTmT-e`<Te-M].a?de?m9up60UDoP`d+(eWB;d9+.k]l3Gx8]$B.-@?'FixmUq?dS-Y.htg&R#@#fR$AY>/eV.
 CjhaWmXtN.rV4Q[ugSn/,BRlE0-Cwuw>sp[1M-LG+-L%o(BkZF1]<4keu(?3pfY=/.)`BFl&*<mB_ft$QGiJ9f7MLTo*/=T;11Zi.b_>I87j*N0A48Qnb
 `T-95-idFEp>@#0M>?2mxDI_*4#Cph(pMG#a3CT>W'0h*`?5=LQx*4_#RD(BZ6gR^<iGe2.-S8OCA>rkEv^jaV^aKH<w07nr6d[N(tQia]4>;ZS`HIuwX
 F.^8@*4#eEh)U[)HBL703YF1<bdt*%A$(S%,b5`/.$AI%YkRb$At#VBh#Sk4E:X:brj1._cHCIT,;l#vb]%96F[QVgbLV%m4R/?_r*Hj1Ri)_bZU$`Ljj
 V<KsDc)[7lP_OqqHk>`JHe'nJA#9)VZ>EgTFJPMN>D,+7;Ml+E81v1*O3oTRuZoT&_gg0Zg5,&hZLk>*:,6quN(Smc[8rIhGm**He)0-A8[5?Q81Ebld=
 ad?'Vn>aPh2Z4I-m9ZdBt,Rp3Gt(i5ICR*TZnL%;%d&Te+SPfW'ts+tZ%6bmX:TZ4-PJuw'O;/;`,&76r)oe*%Y[tL2n:3'hLxf@A^UhK0m6S]+*%=c^p
 #;n*`A8T4.4Q=?RJZ$HL(b<8iWC>GS;taV^06uMl*e6n&IPdUo4n0RA*)R*FVRbPPw'JkIQ)3&<YYcI3[0L&q7LtLA5$)MpqoYA4;R'U:eatCl>C)SZik
 Si#_[0HKc9Wh#f5;eMjFVgm+*[i:0uH'f6<I,LqY7L<pkfV2,ntYEM8eO]TvNB<o<o%kbtKLW^7c@0>ZnZnLvgr*uHN-DxW>n;vcRUMdr0g^IONM=vf-n
 -s-+H^9ME248jaK//]><LvY9t$)&+1SRnB.h:Q./:V)QGISh*PSjfPx8%1utng?FniXM(o-DnPtp]O_YA/(><$l=CK[&ENu^v<uEht1fs?wG2IO-+]W$7
 )c,Me<;HT2i=9O$<;7La^mokPjW@1Tg9:9m/Ic8X1mPd1_pjgOk7kGh#_8(`SGb9#?RWY%bYx&'Dr`g+;vsVh'7#nAL-,P&^cvS/f)>%+#GK<#P^8U-,M
 TR9-U4H<i5/)_IiU*@71q=VBTS6DPIq1vPJvv+%D+8)_1lE?JBE>o1:H;xnrD2.pXu$g)G8]);#riNI&G`,]]U(1pKv@I9PxV0tsq@1ZaQ^mjBm]#,-.<
 77QP#qf%1M)[FG:>.WHuo623@EAhL@8Bsu_07_)cMT%1`RuaFB&.'4P=,k@@>d)E^]XjID]/;/e*1$rkHm81;r`Q_6i)McV#9Vfj;Mr:@Y=:bDD91pHq*
 s8#Dk9*;957OS)8N>WMr1/7JX#/SktFbI9t.s*Vj?;H2Rnvh1l?l29?`KE$/2>sh.5_32F^2T(d]EhH(iGU_M+:Gxpl?g:ZND,i24_'XqNaRESXx7F6)9
 9TOE2hd[XY1v_Qk7r)uH#NOmf@6qfbG>-#Rta<RqR#0x,sp_AP4Ni7o7'kAn5:*ZNI=dbs&gYc0O,=0fKW.Us()NnD[;vn;W.PB>>j(/gpr9k-DDrbYZg
 +(x>mBb-jXHJ9h3]++/giRbY1<AR%O%SG7tvMD$SYid(=$`E-ebsmNuacoKo7c]6VDc]&h'S@uq^6rRL2Egc>xrXQ;_<*Ec*UgF8K:ei0*S&=Cag5JuMq
 Br7*rU0I7rT>fnoXcAaKEX`+0Z2iJGr`G(u9*Mgo%HtLnVLmV&aicu3S7_Nl)IX[EQS-JXR+#f+n7OPn5.'FmF5s&Auuc,ciOX4bMRpoMKT>?,cBle>6I
 agNQnx'#+YRj26qt,ePk[JQQ%l0]#(NCV4@_DuG9%A%lCL3XOdvBi@nbb+Cf:cM]J%k^:]Df);DL4WG*(.#R;;map`3/McErifE/6pi`(Z5TiGmB$>h(q
 ?SrAe(AM(5e/gaJiIurD6hg#*%44Ix@?<fN:<<q7dL5<9K%I,:0/s7lH?GLonrc^[d:7]W6v$jmj<Q.oaH;Sp$__1JKqn/+UX`rwgdLRh*o^@)%gV-poI
 U1U3hVNGYwQ.H7+iaVka`txi.F>E7jhgK3a/uN5(;;YYj;jdgX]Us;e'BNJ_R5Vl8;+8tOQ[aT`C0UjVF#7jV)ubVV&YlP3+%/Y:29B6R/^GfU^Z(c0`(
 jC(>-s&#D(XY?F@9781sfq*:P+x-sZU1&b&^=d'Y:tp491)-i(6wP)m6K)1U&#$./TvuYu+rc1I#h7OEp6^WlN1aXBdNi1Oaa@[=Faa[8H(Q_vWTDj0T1
 QrG;9IFf?AMNZ>#x$^D`wTj@U#IDsI>Pi(ku7lT)/aKQod,]^l=/FLL)o3)Bfq&s:wN+k&XpOKFJ=mo^mmdv(Zn8Tq^Z.ErOreG?b@X%ERJ2,;#2:Ev&T
 HVwc[1*x<-1cHW_-vbo`E(D?K&f6on'?t.[IA(uHSI:3[-HFf.pj0g=,_U*X0Q^H91c10Si(q>4/[B7C+m&qjrO$MdABs_jG@n.fC-G2,GcwtA#7_<*PK
 <O%KO5#N%5(%6_&t;*W1RSsfoc_CHnhq_:cl<1QI3Nv6u(qP?_SxSFKWQa0XbcQOWKJ%iKU1Ji>0-ctaa-GgT`1E&Rl0Vn(^LmHowhqtj'n,]dCDMbxjJ
 ,'%]);52w96-6&l9x=/O`N3<rCGNOm+hvR3;`*xw6jcBRs+Ied[gB@-=a.I,/[t&EhIiQ#>60mQKhEYKgXUGI>Mls'rt:'8gbCf@f]+.Dh%gx%uVgw4'X
 RnaDcej_s6Y0n<[U$l4`^w$1'X7SK<4g%$Ux3*d;dDuKWj,pi;Dt.,5(ZCB:o5'kZG9[g$k+I(2#TOCo%5wv(=a4$gQduC.8O3+D,JAPRlN?&>9$C'$J(
 aevlIPU=?$:oo$SLYLx^=YQ@7D0u-&oD##lr*`2m*:G4m^pwq+g%5bO@ONamfL_*-4,o?:*d82(LM74:qnZFG5<Um%/Zm*olNWjcqtXRoMsf[=dr9m%S$
 WG)[3XgW7)loLHJKFJcE*i^[X1-r&.6R<1(SAj3Xjxh)ADrlnH=bGAYQO.@sL[ZHKl]$IR3,YHO7rE,*>8]oIM4N_ujs]08wOZZZ<D'Mtx/6q_xsj19bZ
 CIhWM(pS;(5vB3jNKSl5@fK8$[imSU8=b@:k9`908saZu1UdpV`<a_K77+Tdp9W]u1Ba9kA6^K87PHp67R&#n^pF).3<_qL9Nf$]#XBPY17IaI.LhWW]a
 *]0Laqm<?:Q'CnO*(k0G/%L2XPR@WKX.vs>^qWo#pVYn4gKwMWUk/O4HiZ8LYiupIYxWu..,/m&02[j=Y>C9W+^:+wa30<x--?^aDJ<9qD>`tEQM4rB/>
 8A5>5W2aZ@o`qG%&)1Gj&GDj:C6GijD]qZe.p*Eq#ZnkDqYF8'3[[SfqQjMqJIBsWV_Xr8/#Vp36TF<FO*:,m$3nnDZ^+MSNn?-4@%Q]_UTt)PYq(W=+;
 dJ`Mn3asbL6-JTfdh'<bH/ld1p[l;h#.OaR6rVc`i'B&sitSu7Sh9MSmjpMgUS3t;cM`:/[=FVS[/]n+3=Fk$T<YaR3Mv*kx[+wsjXYh_Q59iaXOYCe'$
 (,g5r/pwqDOApU?h=I;O%Eqt;;Mk*MKK9NDhef`h7'J%R.aC5.teCY:w(D0^'1OM,s<Arr>R^FuYFH;0L#K>p]3]6?%)aKsKX+*^W6$:qu*kDP:A<8Jv_
 eF]4$'#%-#+L]LuXtZpa`<Q8A(SBOn1GLu-a*5?*aIMquqxMAn.&'HixIQ?]+uMTCH_AO@$S5)Ei2:3vNT3tRLV:3tejTgBkD_W=a=^]ugBuu5p,7C9?i
 Q<S8p%2vIk3f''.e;twu5X?YDp&dMYa+Lp$LgP3S>=2^&c,tewX66jSc:c;5>t(EbBwrT:,F`InTa2^B=sDJ66S9G#RCC(CV)p14L.PaNql(7u&UJXpsP
 ,^;s/:>5+D,>W<*%4iWFp@<c@j'j*;Ce-=k@S875#wFo[_D1[4$?cMhfbA>4fQq/@e&:>[Xt`=cNX/.Tg_EgKI>_W&Q$@W,(fH[uSE=aU/J%s1]?30?&<
 7EJPdbfh-tC:CiuYoG^9.>bKXut$;w&6i:/@uTkd=_FZv?V.`4Z_FZfu7pBtW[:jSO5<;-95(_gaeLp-iV0aAcNsWL?BR$Ri'VP[xe$c?@,bs8V8A.#ns
 %9kOLJt;>)HAN5($IK#J.l4hV<A>K&0tTu)%(W*?&0Z:2;HgbV`Z'$>G]TH]`r:DF/(v-bGs/co?4kF??/cHLT+`QnB&7[@,V,R[_p2E[p].lEI^b9$lC
 ZaClhJRUBdALYu'?7sW@._C)OY=0dET47pIa7;3nKGY6%I0G:<9MP<vS)O1)OcG9hB2E72WDfa3aC^[P'Q`6'x&F1?DtR),xe`Z?ve?uu:f&.f;'qZOiU
 6BG[A$?_>iU3dsP/BxcB,5Jt<$[xF?gg*^u<<GEWOrvVT4A]aS(,0b8%Os[`Tu:L_(qUa&a6-rET4]46%hjh&_&=@ZCV*wa@LZZecog1[_U5M%)@?%5RF
 sH5:mmjS@Y3$ceFt=hUp4`m^>YWD[),eZX?BV>;Dbh#XuvW)KW>/&+O3t7?YI/c3ou4-@q[O*s*aL.-lWCCu@ZSY7E1$gh[d&E8fvbvt?>Ij]t4.#Utvp
 M&<L1.ODQFa*6mUe?Emt'1F9(<7R9vdKOn]@rb6]6LQf%SVewb45/ORJ',jZ6a%A;+-5f&InDv0Mue5>17DD:+k8evc+SjNg8l$7#ffuw^&]+L8YrP_jG
 ,Qvw*MvCg:0xhnO:<0&i@oMkL[Ur_gQb3JEKmZYU^WV0rb@.VJ)e/]l5`7MRTEw_kk%HQg/W,9-iMxd$NUuWbo*NKshZUN*exGSTNNv/7cw4$dYQKckGU
 .p6jQ&.U_[N;.>mKBNF6R=%kqm,7Rb>=jW*'1KpdeuHb/$L:Or3xQ;uwa#4)>[P(SrX&53'=#xwu:PQItt@Z&`>ib53`2'cAFM<H[@BgwS_.HV=$&h=xr
 GWWk[f4iuG.9v;;DH]_&7`Z5V,Gs2`#Fr6tMFgwO+:xCA=ns#FeoB:fuD7MiS>*SB1@8o?K%AR]@Q/GXMO@+pdsg%*Y;^l31i[kiOJm+'7F2i2gaYZq%E
 H:79w,CJPhd]6_^'JQ3XBNm=KZXJGHg<i2hLic3#fCh4)@?Q0Ud4(;W]CH8n`rFWliNG/HN^eQ]Cx-pP2Xh+m^pXqSSW>3wQ#0c9c:9LrK9bh@B34<?U8
 3Mq(lOI<$H>,+SNc[NF$?)Da/@]C?t'HS1;;ZvJo`o79&@:^n8StRSCCZ_U9h@V<GHFiwtn(*A?ho2<8^@p`@6<SF3,h#D0jDtoIif-0OwBp`<;64v:fT
 PFo%ji5;WdlGE;k&nDZ<Jx<7:%7f>Hh:TE/e&4Qk6.RE`@OBYs9iPYO=e]nARcgao]?^NQ;&(XGa]0kBTq+*Lkp(ACQVV,0El$3r-xCJW[l;&qo&w'M^*
 .uiI/XP`R9w#V%8X#KHW/`U8XD3<U(HmA#n;dJGp=Y^0QbeNsMO8OoxQ@nI';.Vu@'+4g'.LJ*C=lGCYeP,cgig3J;;NTLSI34D$*52#H:vPQ4_-l@)A3
 H(KRu77gtlNl@/[d'852Nrk,e<qm]lMa0[6o#Oh_&g3Bbr,P/@@a$B7aZ.qet&P?,n9);U(wVCw#XG*AlJ''?WTSlp'H5r.BxbJ1k>MbUL4K^8=;),CRb
 &bH^=pv2Am:=v*u0i-$t[Z1-J3muT^ZdBL0fc,(2lV%nhH$GZ$T$Tnb2.6`#?Dar;SGc)<p/i+G]L5K_(feNRBm5_ulS:'k,TY/?D;Dj$uc`'Q;*xF$Cf
 Z:s39Wu`YZN17w*SEK:MsG;J<5+[uO*iEuK57x5bcb&;t>>hBsu5ktg6J]HW`]XA+a##Yn`Q$lk(jm=KED-gS&G:?F*[]<>Sp$vm.0q.9'tedB/_UeBS1
 ;'Hx+pQ(5Jwo+pjucl-`YRJJGNEN)F63:d6<w$T>[5>vKw&Rv,UljUD'jkt=@H*=t$)=*0D9Oio_)G&Of1#j^2DgC3OQ<p)V;Pjsgl/N^7=e.Oa#f>/`]
 *:N#Tjv^_>J$KbZ(LaXCt4NUh/44c[VbZ'jo(4d*ofE##Iq?#U.3N7f5Rr%$^hEQ%B$hi,BJ#Zi6C:qG@cP&ciw-b(8h2#Sd3'XP<%,=5LT@d-Ms%Mt);
 6d8VGNcNVHIN-jN]8;1l0K558qjf1H]OYkE`i17NuQ]h@L,dA8$.fMX<*O'US/;ocS.I'0,vGewg9=r1`7JMR%,^jZDt`D%TM`T@VnxWm&Xb$E#-9HgS_
 M8]jjl[%0hq=;TDG.VY<pgTmgnb)[l-(x<XwVVj+[2q<luIs>cNVG5juxNR]`3$@G09r0]U1]FpT)ihdNbC7g@)VGns*;_[%>AWUhWQS,E,XuO?c>Ua1D
 ElAvmvQix5ifh?6:V`nX2$2T;b1BvI?IPho8_e3Vdf*GKrUM(OsYp93@A^]p7T%Td:&g:7]nNi[H,<@%f@kAkWi`^X)eNrRYXsD6SB%P;HV;eH%[xgS6h
 4&TPqHP=pPG@bOhwX=VUhW$bE,)BwLLYB?hucO=1;=WnSZYFM?O0nG*^@(QCV$JWgDM#H<5$nCWBlDJEv&kM.-p3YAT,nUWUW9JEPFt5lHthS6R,.;nU0
 pd+2AJZ3)7ULW6qte)#BbV5AEoLjRdtd42lE1W;qk9e%e?K%r-'g6W4(xWw.^'B5.eJQQS3%0v%SE/%em>?$P++i-s1J^-$a(JOft&V9gvff_7N+mp3Ht
 nL_g#Yt%UHXKMBG)1Ju1naV)dNwg/eb^9OS2T#7q_KC)>^NW6da^>JOp68AbskWP.7ZJmb`cDiJTD$1Gm?-[,LUa3)Z?#Ul&&ul4Ax><uPDlYO?SuBPGa
 =Z&=Ei'($Pi'.E(oB(Gx&kk$4#u1WDAaaI/_ADm@<ODVl=)a864GJ#8Q?c>$CY7F>dV8SXt[:7H^-Nt>+3Xb=Zj1B#CYgci^lV5Gl`CDH=<Jtw[`B[F9Q
 jd7+mA3$Igq@aoR6aTipMA&cTW[0Am])StUHBpw;oI>vBHB8ev=DJi5jU*')suVl&)'H<bgK<mSnMIMw(i@Kjqb-XLYv25rU,UC#*%6J_e=s7&IuMe*$h
 j0&VYU=9&7BSlx:LsFnEeRfuEM4lwUoB$5-CGA6LSUx&CPd1PgGpFORu1^26d5TT&Nk0f`W[/ZFSrFWYDI(hJ0pY*rNdP>(>D7FWBTKkCGuR_`S+Slt5#
 EOIW=g3cZ^ZwhJevPEZdHnY>5keMCkm>Yj#v'NHpv'o(@BCpF-31_+>WEYE.Q5rGKCFG,M-v>uK@@IMs-xJWg[`ic-Nnv8n:KbTLA,guZUf77rj>F;<4X
 B8>U4jLB=,:Y*KCMpm.*bt<o$PRY_`Ghe/b4a?L=p;c&w_ev(3AX4g[DdK?p]l<QXj;1[)$&N_u:-oTVHoR&ng6]VJOMc1R?7,8Q$o()S4QfA$Scg*T,P
 7F@Dw^,No,6S-eq95aK+CcJ?HJKe=ci#4dp,e-^D5fGg=t?oD]Q`9@qcK'*7HDmG/q^fEOv#D>=WU1YNj2c/sH5=D]$D[=lB5v/<NZ'kfUUoEoX@>*rO^
 -Yprlei^TW>4$@?N.7/):Osd$rm3<KN&J0[*%//kGBJ;NFA(&<H*)*#^O-<JSO'676&JXD]PDVKj=bt]oQ3xgS)mO6eI`P@=G;]4,]v9H_M+rD$,itirG
 K-XhJ>EZ(XUtU6r.rXMXrsJeQ6@+DVkt,SRf)1L?=p^^dn)lR^,>@;<j4]C`lNO'A^ecg.-sma'>U<EgcJ``g]rj//U&[q834HjH[<;oOVHd2Xl.JMtYv
 Jh0nY-V0e.rdB@t[kIAS$D#iJRsS&#IK9s.1prmG3eh=:Ha#ki#x0-K2[?[.<aZIksb)D4]u/_IBZr:>;1DZh/5aXL<DZbRtkX=A5&N5Z7hdf5FaJ=_DQ
 .7)`v#.MRkgD[wU'Q'IA^=Qi]7oX[%ZhwPwK64PsHbS&>4sv:gAmhvh>B-8>^YCx$R9Y2>Ysaj8:?#[;Wn@Rls0K7+DISe1dO?WUAL>)=@wq*6o#L;WMO
 YRq(e9&%Z4xO8jM,mvm;Vor[&RdnN-D5%<VptJ.MrO4/qL7;X-hH7[;tbN;/+IhC3a+^]:GXR#99t%$R%0T;C,JXKsHGX0xAuwYrr2n4XDT-&v*:'5coM
 Ff`fj[6HH&CYTkEoP#CXM+5%gUVZKXIh4YBoHe;o4Fd(d+XE6tj6-K,'?u=%1MqB3='WC,elI)iL%0>+0G[oSG8XlAfM)dL4a?Pt&]Mw`x&(fKB=YGxBI
 8b7^6NjOYLA&.D2Hl]EPR&([1fh+DAftSv_:d4=b;i7d8;V&b(OH2h[:KD#$//J[@mo#L2X/'=.:+Tx^c&^pZ0k16WD.GhJfHu0ls_eH-(^8ws(oJO:v]
 8U;Y<?tbh?//n'^#,q9tWaX&;#9@OTZmtA3ND2lLgD)Dq9EgDb1=u1PkUhv'&2d@q+f1w31WZLfxU##[bk35UB3@+DZ[>FZBf*V5_[S:gE)r.miF0A<ns
 Yd,dJo,v./npW,?&?;s;-FN*WE]6[(*O&P-j`ZOq:p*Z%uccHE#WNGn=e5L]'Fka/OqY795rTPb8MMwY/xH/;Y)BBjt#OLf5mecOK+DO5P[A1xo)D1I47
 kj&ke/D)tW;cH(R9ceb_gclRB9,+SfG`r)WkEWo48o/;rG%HpJGSl;5Bg8j(xl'7LWUg2Np.ZpX$B0pf=v8Ku,j_XJ9>cAS-@%`Q,X*=s4Aq3aAiXff)G
 :p.gxfE+&F=kXODk='E_@25uZF1ox,mj?AAIhNX?o0i%u(Doadi:n.OJ.CLT-h,=_`(:+<(XsZ%rc7AIQ.*NEUo%A?01qv8';:ASE`=Hjgao&>9HZXM+Z
 sg(X:WKcdWS&qGouhLLRMF>#+>DaU=r8.HMwxvb/u1/X=M'f8nv%XRAU,YnSoA%&j]&teT22?TF-],9K7gMR^hsigV>=D]4-ZKLeG&'ed#?W:>[SSQ&.4
 T=orZ%rm>e;SV0L0?-ErUoqiM@e-3C_-KdKjA&Q*;Y7HL*DVEOp]_+K&iMu6ix(??P/0Rl25XjhUdX>/wmQivxT&fn^`JE@Z3'w8SU]NXa_jC:pHd>$t$
 l=><Kn]XK@YOlR>-p`'N*:r$7K`JD]Mg?2cXUhr9dS8inc<mNaoHn<xlnp3Y=jlgllkOuC<MoPm%HI^@&a`%e_-#3'-@9b+gxEA^5QgT>r>jNk-qp*`$m
 #KhmV,)GOBiX^a)'V9drnqosLBDWS-j,T/$$fGb7)8Xb?9'qm)aY_%6O.$%<C<5`kbKEfx>5b5npUb^rU50B?x)19r(-*/2SeeNnE2JDc_FTRJxL^^JZ/
 R:>_[gJ;SBY@e>GmOQB#+sc7X>EX6]::$UPks)a=U`_Gx&`o+/?a_PS[:uvQ4D-f3>n?ikb6M8*q0;E:'Yhh%al,o>M[&NL2+5WdtXvxc*0#.LEE7,wYc
 G-7P?=Kgh(M/C[lZtd^hUDoCO)R(P03%HU:+LcDjw&?2SgJ1Ha2X:Fo5Rtws?/1uU-qUXd7mXhrR(/h<Dd7B<hY9vdeNa78[n<Ojg@$qZamhtdmi3I(Na
 nbrP&rX)E^9Y>l^RPd0&LJCmojBRv?6#[lPPK^3Ijn9V__H;grX0T'XRvIUiLC8rgIt/6&Nl+4-7Y[JNC',3#07flhxh:v75ZXKcL.mOE0ZMHSj,0*PC+
 s=.^5>ow[A%:=3T=ZO8<(a;e#-8@u5)YmZ(Nou?Rh?;i/^#S;`6')-M$*DWOO6QRZ3'lX*lO`.lEad=Fc)-?%0U0jI3@GAuMt7c2F'LJ.?,UhT@`GHU<M
 nX%5PV.J$]YK#][kg>Z>27/'xqs[9c;j]YsLm@mRxkxtUuA=I-Gg:;1B3ums0%U/%61*L.@$&18<wvr8[GfI;5]hc)v<(+#)jp282QW[KH)bqBKNPEBjH
 c^xvO$Qde.%T8ja-BT./OVk)v.u7IBQGU(IL:B<MCm&eMum)&GbMst5q'<hA>YaXw;i[.kKYF+*`gY[;c#&jueMt+#XUm+4Au(,%IQdbVTs^&.U8=i@t3
 OpHF@2RLTN*0O8AZMkCMpnT;n@#:)Kwf722L1h)FbA?v2>)>7Uq>bl:L,whdm-IP+=9@lJW-ht(gS4SOtRU%Veb+NnsciIh?RJB3+8_rS+3p>WwLLC_[8
 rv$MFi77*_/tVu`^S5W6.%JUKgZn'>_SnNO/.qUl`RYeY7e;GBI%%D0XwoU[TA<09>M;RnNss^3G3iE<ARt%@h-kI17&X5%XhPwEPrrX5=hHJI^v6dvpc
 7^=JEjEc(7'iT)jUgvCm*mSgs?#N^ZF^S'p&Bp3$/,KdM1HHW?^r7/]Bv686n4]kBhO)px&,,8eHhe&CQICdJ8s=.XQu3d#5WC4@[<v-R@al9/sd)GiR`
 2chn,*.N&k0Yq*5dCpCqt=mb`wQsiGNglX/9Z@hM'pT1=ix,QP_9+qOPT`48Ar$A<_q#r`,nBHgZ]?J,cohNd^fEt+n3&%_Zd.&+LMsn*qx;b9/H/&H?,
 :@^mP(rKSZ0^=3J),*12`b9f2PVsjQ)+k&>=G-d_?eU>4%EE0c6sShEKPMaDLEu'WOv9sXqJIPprKDiq#kfBx<U$KvjY2bTRDrIX(?c$2(/@?Z^JV^34g
 1keq6r59P>o4wD7SQ.1Yfb2-]%=qf1g'@fAE7>C8/6Eb^RRtuCEvdZl7e9.ntJnhnEP:Pj,skc.J,A^CAD$hGkdt?U#`]#n:C[Pk`xra:gD7Ne-dDj]fm
 W'bP2=Kgl***u0RdZfI*]%Qj*p,oS'u)d`s2/>b:Y?L,b&gE&4hS[U350Npt8g&kT=9#_Ac/9c01/ub')Q9W=s,UACM,fA@o>Wm0u<EM3mw41iIc`-/c(
 ]6m<Id5iG-<<PX6nfRVBRk<EI&[3PrPZ$m`X++of@4`P0m:@qY/8:h:fGHmqjf88lAWi++'gnNJ^cBKq5b'vn?(5,Vf%YMM8kEJ0l@e?eRlJel`=tC;[R
 C+:q[D$lbZYo/@f,Jm#dt$p8p#t6b?PYF0YiicGIo-.77-:HFaJioUXmm+BZRT,=:XWI)]sQr>XL%ilij/0MY`-A*D0iDWwb#x,u+)DEfxJG_;M)u5h`Q
 HCaGl&_g^sgC:N.-(VN%K$vRL#pWIJqTt%1aFfU#n+[kXqh,j1=F?wHI5B9o;n,;AR')Go>lom:78'Rd-rRT$]AAOs[SJSOJ2)+ZIo<HtTc3toI2[xw_a
 bNr(V#=*He=YX4N$OFD5v4=#Helw]?%82g_q)Ro5hxl38P=DGNxX1?9e$Q:MAtDtYU&@:G*U,BOOMN*5$W4#,GDS@u0s[/D^7]:e)aarV]cWI*,cgnlLE
 f54^&T%'AtIjC>Ix,i:)k%Uo&49C;k#MMq_Y0*4$J9i^==UXJ-3>P8]$Kq$1EC60#HZ1U-:9J9lB1&xg).0s/P:Y<$$E?2PRsJ-a^n7Aa4u37[3j3e6Ub
 'juwPc%W,-bl+d/N7MW/gWaK*R'emDslp.mGw8b.d395g?#ql]3lb6^`e7MQQr:[1c+(#V2wB^va[H,C+%]nAoq7wPbv[.qloBTm[5/%Eg+u1O:;%_ULh
 FPM>_ePaS7d<Z&46]'>GvEWHXqmh9BQqkmS0wdia,k(t_</O4JpwQS/x*xC]Wp7P6HG#3U5Bm]*Cv].oLBYU=P>QhM2/aS6@7`9r5N=eLY#&qV*XRU$L[
 oh9.:G_,EdA5lnm=`mGwjtY2FwGxLDYcVLtRn[p$iZiR)c;)3m$_0)h$PhPR7@kk*r;NvbF3:C'@:]vRNl_`CVfw>K@[#wK+O8=iHS/C>Y%Nhlwq6Tg00
 @r?DcjpMW.QE<oS8A+>hBIQvNmD=ejG4U:')(gFBNBGMUP+13Aggn%`e,cb9Jl4EjH<Nl^]F:#%Z-%DUoh[WOX%D_EhmfL#SNp6.w((#KH*[2?,Z(^6([
 HUllONL_L77Gf-$1P1V_x$%Z]Ir?<O@NU5.%dfN;@o6.kk%>H7QY@uFL?5du?au61r@[n2@WkGXrm]HvL/`NbbrV^w(B;<d<Oc&/[KGOCwh<7?xHe'/*@
 =<AC0=>O;:fcfm,pIW/QY4=O..>1-o+@af&%BZ'*aUte/QFLv=>;I&N5s[d%lC3Vl*a=1sr'$f*Imppx>kC1(]L?1G]ZGI=H)o,4^?'CV4ria33aTcC.:
 r)D:NWta%-44B<_MJBXhYcmY-gVv0cP&;L8lD#p;[C9)-i:lNSYE(oErLhU@Z=F.;;+CqAbCKP5p6lcG-sk4Q[H5)M2199If`+T8PKHFP@*&dJV9Q$vTu
 rH=n(H%]bRqVECK[`#XC$AOX0)6duvm=CaYd3(S$[*4Nc+H/GA)m@X8;t?2G5L`5;$n-a*N[I]7CK1eSB(jZQOTV.]]D#`-(^)'8A2Y9IqW]SZeP%/ds>
 1452F?jV@$;P>jMl&-K3(`fT+F,hwcxS'l@_*p)NKb0Sq4SAM^3,Gd(wWLnX?%8L=6Kjj?Q/G^G[TDs1oACx's4AO=w8^H_fmY3eX2LxQ=*VB?t#__-3V
 b#,m%tx5rQCc?r/e;fHh4x.i>SG^po[$#uPhB(N^3S*992-ZwBTiSVXA>s[],A0rSf`bwIfR(&YRT3un><X+$[F8R&5a6Pc)tKuw1<BrS3m*6nT3VL2L^
 ,'s&LXRt(YduGEoq;GO=9K&xlhX5+RbeBp?Ix(t$uVbxmd*sN*dt:8JAhh@J^O>SnMDJQ*Np-f>CFfTE6OrCgf>#vgQ+Kv9`BW7hWLss,1<iK'<HN*[$`
 X/oCA*E5]I?/YS<R(,e'05)SnaHEYXXheip@RBFf]u3g_jQ4=6_Hn.[.V^Fn@TnSOr<CX(W]6KSF5w2X%Pu96i$@DRhPWprKWnqf_aoPZegHg2sAKSZE,
 gcRt7Fbapockgpil]3]J=u(3x7:&0+DqnM?9uAtGb0(xYE+ZRn?p<]Y)uR7W]d2<hl/Ev9nP[AlO[+91cF1=`VUsO(oY`=UGV#HpS3ZZtdVM^Q)&xE)`3
 p@d+@6H0'im@=?UD/fndQMTF@LJ2Sr`&dK;M`rD$5Pes>B_V-iugKQhM?)jESJmNoCqAPG.kY$q-Jd;:x`*]S0xC@@Fvg95GUa'<_qmSdv*`$1sj:9t+/
 )Sg*Lt1ahs4wbK8FR)$Y3jATqfat'BL,Z1.6>'OU2xp+iB4>&#>PivwZJGFqVYU@MHC1a<Oh7s;w:'n``B<^&.9.Z_X3+w:Al./A'Oihlx;FcjGEK>r#Q
 [(c`bI]mN=[&cfVHmSIr%LV$J2g7L?W+0Lin`i?,^Cq44%)s<VY:^irU/p`_ZnKK%&IbOM`GAHf'KQxo/[0=r(fg7%p#vp%2,f,l4AmaCPL[UD%o88L0e
 T4lAHxn%HI7Pej6VA*i%(.fgrYO1#'07(@#R_0L3OqbZIH*+Q@mlkR)OZnF@R+FTGAws-r+9?g4s^V-awIU]Qm7L-A(Kd90#N46#PIgYw:cTgL^dfFj9G
 vYYZ>`]k3RlA%v$0Z+Aal$)9P+O_@a<Zi:^*0D=DUDv5uA^ObNQRn:Wb$;_-@K$Eg#sf-]h9dh2vbNY%*qT@lI07LM29qN['UAC`Rl-daG(u#?Mo8D<bQ
 ;C3K8o3IFS:0LpoXhJPo:2;qNE,3;VO?i;TNfkl?+=8>@1rC2[Ziq<sWta#.rN_+Har_R2(`6)p3wYneO%quqqj6x/p79b0wh*/7Z28]lU3c#CSg[,p(3
 v2sUE1&+U9l.;o2pu(Xo+tRZZ$h;;BL$=wPVJ4$5AfZ-G6<=^:_JYp,Ho$Ijo(qlaH5;3U)XETwl'4#'0FZ%Wn#g@)QIQbQr:c6R9b:x.,tDbg#.)fs2R
 ?4+CqglciQ$EaQG+-q^RBG=snRUQ.32nlb3at'[+sa6Sj:E%Wp/IIA@epHN@76hm5X)(qObYn9x$u=7+pq;)[h7pN])bH1j<g4K?r5[E,O1;8=>l,f?Nr
 v6P;]#>S'we#<TW?:*2>OoX4oexb@h?c53m<]YmSKmVHL#m4FoI><*w,o=A6-Gh15;7sDh'J[ccXQ]c_=sFGVD2r1n46Y1];Eh0S]dN-UI/XTHA>X:VtH
 La9B&UY'Lc5ZWK[p@Sv^PbgE*-qtl<sY:5):VFs:9l>M+X+A:m2Cg1S+N($)7U6l5+SQ9s(Q2#:@Fx7fLiD#lDFONPG(/LD>Zs6vEnT`.q7PY).qAUfqU
 t>2+`Q9]'dcI7#WbZ$6H-:u@5,Z_F5_Tq'EQi+ct9lUlTi]fF#E?jiII*;9tXq)2#SDrF/`Wh5i0Z@C#w/9<IR/t)3HTmk_fC)KYI,k>X=1B33BgZ%Qd^
 vHm#=;5Z(`U)rK75=EWoDdNP1Sbb'-)KX9$9T5ZDP[IR.E+1mLprEHbVnCw94lg:Sc:E19H,*Ps$GXMU^MOao)(5_V[qP7:6Wg,,nNE6Z?E0U7')MF82.
 ME(4QtB+*I`j=3r@w0)NIgtLB'3n3((TN/]4hF0dRld)E+$a'i261:t5;d'NU:vYUh#dw]YKpvd9K[>WhI][x9C9;Xs69Rta18CI8%7Ba?1)#1)K#bB^/
 1]`.6?8[AvK5P'D'..$)0Kv%/0J15dDNE[j_&+96(_,KW=qv#U>*kB^sd_%uJ9<+l*<k+wB`os#L5&U;GAan:u>0l'x0AN$m`%YxGmrT*c^jhYd?T*Pg^
 9@K9Cu2ESskai2oAs&Vab0dv2[h4a3DM49ArSU5(veJLdQ[%#?5gGSZ]K=M5jU6Evd_>39v^/eSZ,$0H'AP2L>/cXSuZ0?#:qv@drWPdZCMJa@+-/S1t=
 T/^<Q5]Il9F.I@icNV+Ge2Jg`Am1fCF[e6?0JRPm`Z/Q.jY;OYIE*`)i7aK)j)GH,PXtxp5B$DpZImSv*_xCO?oG?45EQ9EIO^*K<xPK<C>nsBFEDx17W
 ^R$xNa-`@J]h^DN%6ox$Tni3nu%In,T`:U?dq&*x(:TM&p3OUU47OG&B05]-Y5rEJ,PuJ[.Lu_TTcCiYc0B_TD^/c<`^v9ui6LKVHBjjP3l#*FT0MY-DW
 Kd'A(^8:x4]/.0$f(R>+s#Jbns+w']fJOG$AsM5,BNW]5$V?-;Yk^OPORe.tHr[^@bhH5XLnn:a)O(2X4,pA<gnHf#<KDa`j5o#fN=tWFl`]g)jIr0HKD
 #97],h5xE`BbP1[W0wbh^<gKt4m?<X&STj_(KFKcLb9l/J>3C4TmbS+>LMsd]pT5`Psq=vV&<C8PuvX^Vvp^u_+HkAZXupYRJfKg/F<H7tgT8jau20JiY
 A<CiG[Ku:CIepoodS(&`*(xf`5LJ[R47*6sorZCv`E;',[GmAO^'.*T1eP<?KMwadLHg+N]s'NgkPb@<'VW2QAsW6LeH<i2YL,&4@iE]rPm/?Pc,e.;0F
 t$X4]dlt^HN<K:uDCp'KUE3NHL&?2&PLs(aL`ImLrag[*[cW&#n0IW^LpYRFdN=8RP&SAb0*Rn90e4e`dnp.ZqRU(2+dmY4idlH&7p$-9J^AJ1X0ZWW1*
 $&VaY6XZg4tCRe8HFW^(V:Q#lW+&>r.5i]@#KUK79lDlTn-K-hEEG<Plc;/d9^1,m)takb25_2^,jX;+2+0AB%lh&E?FsVRX1pwxqQVHZvLV5n4M];bL0
 `n2?8R)iqv%>+Dj5sP/)k+(3$fIIN($qM,7idNHQuBk,9L_/1N:;[_R[$?rZ.>-(V,r`?N7/c+.V:Au4GbGxI-ol8dDd6F.E(3XXab^[Ac=(7q^t[cJF=
 tBVGa?YoXefCDp_U_?&XWY:33AOnaoO-]#X=`8De>]VfGh?-Wh8sa#V05,<a:6Lc4t[gXv,d7BW7u=5kY/n`q`(+T^e-h8_lJefpviC$3b%MNO>gEW]K5
 giv>O,pMHT8@)-hT@5QOQ`o>/dI*B(6TaCmKLCQ)n0bOB9bTI(d>2q_`V%qF-nT,oe%@]ViHY00]mMwDs9ShtMs5cSG`?*Ir7:VgscT-c*-OWBxoWR>ae
 Trd2_PC1L.de:xEi_sjP28]>H%ZoL9oATH*KnoPM:Udxp`6i6PXmlI('L5k6eDlfW+^Pga4)br@rjQR4T/tp5)@Qo;I?p%QDrlHIMU&iOs4p5b,J7Z3:?
 M^axuSZZ`Xa'co%__s&eS6Y`+uEb+1O[,WnEw#do)ahM)70@Ak.sQ_tl;H?.p8]Jj%.qpHfj$rd]YQfj>KG1K@S&CH;5C:(9dOTKY5@JRtSmeF_-TOmk3
 ;kGZ*ZS]$*JFf/vn5G^H(IF%UlUubZU5$Si&9'/snfsbCZ$%^F)#Ccm@f@Z0F&=O86'meQJ7voE+<Ja=Ixn+?XFgl^b=+,sL9SS8hdTap'8qqL=Bf:DcG
 1vZC$&H#;(Nxq#O^Kn5,M&<oMKT^j(w&aqwx2h]r-$dIu>:%h%%/l3eviV)$#Yl2ToI>U@LZD#k4B'/%t-xjo27a8?P#&j-3S@R4%.LI-.2*%PJ&MQ;G^
 'Sbi'6VZA?$5cVPg1olJZs`JLYssRXn=UtWSb1_h[jk3:)-,^um,*wV%aj8X?Nlm]7$W.[HPbH<f4q2_URekc>U&&*Cde-uf*gF*wn^v^5ENo0Pp6Dm&B
 2KMt`JBC6QSN3(?K%lxg.KfJ7_wcMF5PspB^WVkn5;%q1WQ#<LX(:GkL6+d4pR?Gsf>YG'?KG/nN6*N7rMfsQ=o/'t]x-hA4PMNAZ?+$=t'Bgs#s9pFJ=
 5aj'W+ur-<M2p)YAbYSpMLJ+&J9VHnkw*IRSl9Qjj]^0:&31Gnm:DGA=T#O9NWKK<5tIgOR_;eX66,4MN*D?MB=c,kRIY+=AVb2YL-;Q>T<56sll'lhgI
 @XW=^nIHgIJFuqCg#f]8cf4vlbg'3L?1XpN+sUe-ILcY-,br[ufuE`[Xs@VUGQ.5S<;EPXPi4J0+HuYm0wqfT136DH$bHS=OUJ3]5onIt65+T08A)gqPm
 sg,B+/r4(#c*4B%bPfdD^)u(>@<AhgBxL.>QU%[)*(+FIkIc',]1kUO]WukO)C(N?COug3kt/g0rsj;8$*t^a@Fn^=*,/ag>)K=o@1kG@+p`%26_&X9%7
 Mc&MlccE0b>&35HCST+RUGR=RF2J&wY70<i&s@5(Mbp0?G2xBW]RR+c--^Vr.po)T;aH:W2fBF@[53-*pW+a?UH8N;CSAJ2Ot0<n$5oh#o3W/.%WEE4YK
 Q_C*]YJc43JHub$OtgeNs3T;rJlQL2P6t4_e:+<ehjD*)ph%SH+3u]0Ex;k,32U3'Mk>PWFB$$3h7_<cH/<p']db_[oM8QSqkowrtGv(lFe/qVQC/iA:&
 Ff.3JWH+EE3tp8,:C1E]SwdsO)9b4/rF=pOhG+RkHp$`OJM*5Mb<+4hma$1#^x#MJiAT1#LK=#Q,-GbDfcK7a_Q5aRaYa^T*FBS4unG.3#1Mo8&s<Bh#a
 JGYg-hj5kph`ho-/H+l#Ya@X/(Bb-1pp7JOf2sDNG@L6EOq+cH:tS)R&_tkk%.(Q:_^3n(Tp5V`GJ@$I:53'X].x./[u5mSKV'u:qSQd7=@H%HYkIVTRN
 HP[@xW3DAIPuW;X5oQq63?jthL.G`XKH)TL#FNV:?o`blQuDKuLsMf>4[Xm-=rn,p#:'kfFpxMTpfQB/:>cf=<1X2KW.c.3(CuKntr5CLT]1CkRf4g,p9
 YB4C:M50HY)B=&07[415c#Nl&EpB_o8`q6:pOgJAb5[eCna?1puK>^_31v[pYfhIGpo4Jc*:^L&RFCY5k[nLtK%k^NSFQBY6#%%rgikwi2Nj@l&u6f9)[
 nYdc'@C$w<hG;srmj9+==<mSi1Uv-pXi1i'ej[TJNS8'pbWrXK_:,A@[^7MY`X),mLgtu)QkVJoQT#6Cs=>eQUDx@D`-V(-h2r/Z]H%n5.n95B6(ER1tc
 EW3SmW#GHVt&,rnE9tUL9in9Zur8A%bI.#)NQ'O<#C%`:-,_],s3-'vH5a-@6a%5G[sWYeC'=wT'egjSM*ViHY*Xb]m5;523Fsn5V]`+Z,ZR[puXO>*[[
 LsUd'E/;Ox9;ig($8Bw%NP]pBGhe;l5Z+0fN5Ua9JH-I9783G#;]kRC;`CocId'jSC28Q`1/t,mOx`#^]k(j?$wHEDOG?dT61I$i-xc%Z7%NW0hwaT[k#
 97W+.M84VowgLtPH]5BVHeru-VEhO/KK^-UF$&Z3eV8d?3r=a.9^LY69M0@tOa[mQ@@f&JPTQHe@.sVhVYCBt#`8Ac:tia3kXQK>?Yit$m'MD&VvfNbvV
 ws@ZG:>j,rM$W67KajBZOsZGFRdlQQ6C%$Hxl3c1MUG?GSOhPTs`<+?%>ZH_kI02l^5?>UYg7bYSn5S[U-`s)F/r,Lk-nSxxCA$;38`wEOpGs,K8Gm/k<
 0&b_Ao=qOC@%Jm8`wEOL/'Z#R.Fxc'U;L)MN$94gwl&<SEPV7+_a7n1pf5G8kX]r6]mv2kS&-7`)rE'&os_-9oSu]5X5q^9Uw$FPigL<TN()K4F^;]/3$
 -3,T'KuXgLsCO_TcL3,7>.%f;0,sVc'US4ICSv7R8wtwahoYE.kT_?AP]+$q$T^gsYw$g(A_mxC02sXgA:>-lYb&S:@eSxTNpB,B5d^tg/MKkMwC9^s+[
 .J$3#_CcQbn8sXG129aKBe4Mr=ZutDW7ww^PImj'b[CA2U<CsBtAo+PUf/rwA%sf;oWI-Kj_bt=reZcYVeNAwe6uqF8eA,.NuqM8..2^0l7'WVhpsc%SN
 BFA>Q,)^Y*fw&aQdvNG,d9gqKdG;%V%o5i>]+AU>1pRjit4l>BWi^/N2;(EDE'0`?vOHu2Jnpe2vKlinw8Kosuk/0n[J+t'.t0]Kh(:)DqNmKQxnF%,4*
 *=pi:1_XeO&A<M42^UM@/=^+*vj+mCIZfEcsihdKNtT/f1kew/bnnVKc>2lH0tulV&PnE)qdZ%FLNu?`[FHgL-kj6NVp#&c;(F`$MYU.kI/:;nO#P1[DU
 GA#)NqB88bL)rEVD4.#%sYhDpPPq#<->_#ZPYs.fXBq's(AxS0UOT2S*V5MZ[9B9t4Ha>Y]^'l;k&K0.;)nVqOrT?4,aSMbpFUcGrm7Ga+v8_B80scc)5
 FeDCDd+HqBD18OD=-<l%p..K[r2FAk#Jos.sFE=b86esB1_cX-/Q$uXjmf_c4AS)S<x(]w`<sq53Bfh?fxu>]fa6X*ta,>TLC7s?,%8XOhH0,/#4)_M09
 Tbt4aVk/lx]9.=$&Z^xgm-Ka'UkqxR$#>&KrTi=8tL5UI7@8epCLes^Xw2xCMDbMPYKi<7+fPZUl$(q#jbwLDe%T&Z%(R;^pTLM?Q9>_vU^L*k.=p*'A3
 F;5^V5E3pHVBBTS<&%5(J7]W_rS)hP^48B4s:TRf)%Qu?4r,,+RZ*iGhaTT$^3%]oxB0dZl1=U.HU1d:4#%:7ur'a9O^'[YN)2KBQkHtW])HJMuBR*a)r
 Fk)Bc#5tf%%4//q%R/85ed'>jPYA_3[FtB2Lu#GZCPO=P7#L1,;sMCGL-FJ3ARgu7@8x*sp3@`)94j8L.$T+C9#h?%69'YqaSWrRhax?/t32Rp.UH'mM4
 T')S50.3,o>/IxBQL]0>Z4+H;Y$I7IrBSg;%_=2&Xmpi`oR(+Hu5bT$H.WcC?]QXr=&ZSUIX/v_YRj0W^F5in3J63UWg@fc.9Dg]G7aSlom]]p,Oi;MNH
 >@d:qrq7/VD3t*''hAXpe5$(=$JPM#m#b_L[C=$iRsCgxAqg,DE<.1wi_H,f`cec$qd*R;cM1#MSuLin9=1LZLVi_+idi])[ZM%Tg?Z1&r(P8,c48;GZ,
 )%w9fecWFMCGbhXfX7Iij]5m4s^c&o>HA7fu&5G(]BgR(LRF^f_wEghq`v'MZGwS8<Gq`Y/``hgR_XQCEvmRP]6K1c'DwY^`aT,M`#JsoQcR4mLv@&PeO
 :';i5O`U+[uIoDkp@vrWtO,kGif5@QSc)Qa%%1rn8<'q17C*_U&*aBNhv)d%'(DF`gCOEvTsf3-vD%,9k%*lohnxb7ikxa;gX/Q,s]%DYbA`0Lu2v@l_f
 H/&1QfqDN3RT<Nni_fJn`QqtOn&P)W4RH1wSp`c6q0,<isjrIZ9Ku>/,`>3jJTD[*Y%-I_fc3HX(2'0tB]lV4^=HTV;X4YBT$^2+;(q5='bu:]a[3YOY,
 3qO1R&s`#2`Tl*8p4;Ou`hP3(>Ek^pb(&F'1)5+l:8d<Hp3wa^ac<j6UZG-aHokg<PxOR1$UQtV[6K_Ep0VxFX84(oi*x7$7pUG8@2;k'q$Q7SF/WJg^t
 &j:Ak_`f?0>m:@QxQg[r2PB+KTKMJx]*qW,O-pSW`EQS*bFf,Dh,j;9FRtsa:#?0AXvK.)Jc/a`4^0(/%U4:sfF;U]h//J(Pd`?:T2'abS%(V<Z,O_>l[
 4;o;S>MpjOGJ5ws)NCEUQCUd.fx'GRh8jIrev@wSuKPI>@*'-qfvlU@MwPGFrxvWT$cpBiehMj%Bs=E9k*:0UJY%H*a)rA@4R^Meo<j;^B8>Ie;mP'/H,
 UPcn^udKbdR%1p'`b[Y/<riAnl>>bS6ffL0Ab^DYNXm68EJ^`DxAwD;KbudQBgx5Q<HEJ]$'nXXBNeRRNPo2T3rEu3GFKjTP.PPMZnH)Mwd[uXKFR:[US
 6f8KH_p_Xk_%apNXMC#V/J%G/r;tQ()$dBDeS$=V3Aq=pBi3Zpm*PWtxi3-T0JO4Pn+P_gA8UiT.hTC'9aFT`S3bTc$;-+Xc@44(Mg;c'ka)O3>4Jx$JG
 Q<YB.ViJV]<W_@-J@5u,sV9FEhdnh'q^Et95`#`Iu/-J(*j;MnEZ%k(/l9)S(_CX5DAj=`m8/kJPDdb=Z$3B;/fJ*`Ohxu/<x<K/C)^]Wl^ZQP)#=eYrm
 #d:qEe,7R7SY"

end ThreatScan.Text
